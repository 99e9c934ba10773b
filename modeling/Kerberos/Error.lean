/-!
# Errors and outcomes

An operation that refuses its input gives an `Error`. Operations that work in place leave a
value behind whether they succeed or not; `Outcome` keeps the answer and that value together,
so that "a failure changes nothing" is a statement about the operation and not about its type.
-/

namespace Kerberos

/-- The reasons for which an operation refuses its input. -/
inductive Error
  /-- The key does not have the length that the cipher needs. -/
  | badKeySize
  /-- The message, the chaining value or the output has a length that the cipher cannot take. -/
  | badMessageSize
  /-- A read or write would pass the end of an encoding buffer. -/
  | overrun
  /-- There is nothing to decode. -/
  | missingField
  /-- A character string in an encoding is not UTF-8. -/
  | badFormat
  /-- The size is larger than any allocation can be. -/
  | outOfMemory
  /-- The operation or algorithm is not available, or was used with the wrong kind of state. -/
  | internal
  /-- The name is taken in the registry. -/
  | typeExists (name : String)
  /-- The name is not in the registry. -/
  | typeNotFound (name : String)
  deriving DecidableEq

namespace Error

def kind : Error → String
  | badKeySize => "BadKeySize"
  | badMessageSize => "BadMessageSize"
  | overrun => "Overrun"
  | missingField => "MissingField"
  | badFormat => "BadFormat"
  | outOfMemory => "OutOfMemory"
  | internal => "Internal"
  | typeExists _ => "TypeExists"
  | typeNotFound _ => "TypeNotFound"

def message : Error → String
  | badKeySize => "bad encryption key size"
  | badMessageSize => "message size is incompatible with encryption type"
  | overrun => "ASN.1 value overruns end of buffer"
  | missingField => "ASN.1 encoding is missing a required field"
  | badFormat => "ASN.1 character string is not valid UTF-8"
  | outOfMemory => "out of memory"
  | internal => "internal crypto error"
  | typeExists name => "type '" ++ name ++ "' is already registered"
  | typeNotFound name => "type '" ++ name ++ "' not found"

end Error

/-- How a call ends that gives no answer: with an error it reports, or with a breakdown, because
it went on to use a size that nothing had checked. A breakdown ends the whole run. -/
inductive Fault
  | error (e : Error)
  | breakdown
  deriving DecidableEq

/-- What an operation in place leaves: its answer or the reason it has none, and the value it
worked on, which is there in both cases. -/
structure Outcome (ε σ α : Type) where
  answer : Except ε α
  after : σ

end Kerberos
