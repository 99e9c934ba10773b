import Kerberos.CommandLine.Surroundings
import Kerberos.Error
import Kerberos.Text.Hex
import Kerberos.Text.Quoted

/-!
# Failures of commands

The reasons for which a command fails, and the report of a failure: what could not be done and,
on lines of its own, what caused it.
-/

namespace Kerberos
namespace CommandLine

/-- The arguments that are given in hexadecimal digits. -/
inductive HexArgument
  | key
  | iv
  | data
  deriving DecidableEq

/-- Why a command fails. -/
inductive Failure
  | unknownEnctype (text : String)
  | badHex (argument : HexArgument) (flaw : Text.Hex.Flaw)
  | unreadable (path : String) (flaw : FileFlaw)
  /-- An initial value was given to a cipher that has none. -/
  | ivNotTaken (enctype : String)
  | notAvailable (cipher : String) (error : Error)
  | transformFailed (cipher : String) (error : Error)
  | macFailed (error : Error)
  | hmacFailed (hash : String) (error : Error)
  | derivationFailed (error : Error)
  | wrongKeyLength
  | noKey
  | noPassword
  | passwordNotText
  | noRandomKey (error : Error)
  deriving DecidableEq

namespace Failure

def argumentName : HexArgument → String
  | .key => "key"
  | .iv => "iv"
  | .data => "data"

def flawMessage : Text.Hex.Flaw → String
  | .oddLength => "Odd number of digits"
  | .badCharacter c position =>
    "Invalid character " ++ Text.Quoted.char c ++ " at position " ++ Nat.repr position

def summary : Failure → String
  | unknownEnctype text => "unknown enctype '" ++ text ++ "'"
  | badHex argument _ => argumentName argument ++ " is not valid hex"
  | unreadable path _ => "failed to read " ++ path
  | ivNotTaken enctype => enctype ++ " does not take an IV"
  | notAvailable cipher _ => cipher ++ " is not available"
  | transformFailed cipher _ => cipher ++ " failed"
  | macFailed _ => "cbc-mac failed"
  | hmacFailed hash _ => "hmac-" ++ hash ++ " failed"
  | derivationFailed _ => "key derivation failed"
  | wrongKeyLength => "DES key must be 8 bytes"
  | noKey => "either KEY or --random is required"
  | noPassword => "no password provided"
  | passwordNotText => "stream did not contain valid UTF-8"
  | noRandomKey error => error.message

/-- What caused the failure, if the summary does not say it all. -/
def cause : Failure → Option String
  | badHex _ flaw => some (flawMessage flaw)
  | unreadable _ flaw => some flaw.message
  | notAvailable _ error => some error.message
  | transformFailed _ error => some error.message
  | macFailed error => some error.message
  | hmacFailed _ error => some error.message
  | derivationFailed error => some error.message
  | wrongKeyLength => some "could not convert slice to array"
  | _ => none

def indented (text : String) : String :=
  "    " ++ String.ofList (text.toList.flatMap fun c =>
    if c = '\n' then '\n' :: List.replicate 4 ' ' else [c])

def report (f : Failure) : String :=
  "Error: " ++ f.summary ++
    match f.cause with
    | none => "\n"
    | some cause => "\n\nCaused by:\n" ++ indented cause ++ "\n"

end Failure
end CommandLine
end Kerberos
