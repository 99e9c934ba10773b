import Kerberos.Text.Record

/-!
# Log events

An event has a level, the part of the program that it comes from, a message and fields. No event
carries key material or the content of a message.
-/

namespace Kerberos
namespace Log

/-- How much an event matters, from the most to the least important. -/
inductive Level
  | error
  | warn
  | info
  | debug
  | trace
  deriving DecidableEq

namespace Level

/-- The place of a level in the order from the most to the least important. -/
def rank : Level → Nat
  | error => 1
  | warn => 2
  | info => 3
  | debug => 4
  | trace => 5

def label : Level → String
  | error => "ERROR"
  | warn => "WARN"
  | info => "INFO"
  | debug => "DEBUG"
  | trace => "TRACE"

/-- All levels, the most important first. -/
def all : List Level :=
  [error, warn, info, debug, trace]

end Level

/-- Something that is worth a line in the log. -/
structure Event where
  level : Level
  target : String
  message : String
  fields : List Text.Field

namespace Event

def showField (f : Text.Field) : String :=
  " " ++ f.label ++ "=" ++ Text.Record.showScalar f.value

def line (e : Event) : String :=
  e.level.label ++ " " ++ e.target ++ ": " ++ e.message ++ String.join (e.fields.map showField)

end Event
end Log
end Kerberos
