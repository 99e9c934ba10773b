import Kerberos.CommandLine.Command
import Kerberos.CommandLine.Failure
import Kerberos.Text.Blank

/-!
# The input of commands

Passwords come from the environment or from the first line of standard input, messages from the
command line or from a file, and all else from hexadecimal arguments.
-/

namespace Kerberos
namespace CommandLine

/-- Reads a hexadecimal argument, which may stand between blanks. -/
def readHex (argument : HexArgument) (text : String) : Except Failure (List UInt8) :=
  match Text.Hex.decode (String.ofList (Text.trim text.toList)) with
  | .ok bytes => .ok bytes
  | .error flaw => .error (.badHex argument flaw)

def readSource (w : Surroundings) : Source → Except Failure (List UInt8)
  | .text hex => readHex .data hex
  | .file path =>
    match w.fileContent path with
    | .ok bytes => .ok bytes
    | .error flaw => .error (.unreadable path flaw)

/-! ## Passwords -/

/-- The bytes of the first line, without the line feed that ends it. -/
def firstLine (input : List UInt8) : List UInt8 :=
  input.takeWhile (· ≠ 0x0A)

/-- The text without the line ends at its end. -/
def dropLineEnds (text : List Char) : List Char :=
  (text.reverse.dropWhile fun c => c = '\n' || c = '\r').reverse

/-- Reads a password from the first line of standard input. -/
def passwordOfInput (input : List UInt8) : Except Failure String :=
  match Text.Utf8.decode? (firstLine input) with
  | none => .error .passwordNotText
  | some line =>
    match dropLineEnds line.toList with
    | [] => .error .noPassword
    | password => .ok (String.ofList password)

/-- Reads the password. The one in the environment is taken as it is, unless it is empty. -/
def readPassword (w : Surroundings) : Except Failure String :=
  match w.password with
  | none => passwordOfInput w.input
  | some password => if password.isEmpty then passwordOfInput w.input else .ok password

end CommandLine
end Kerberos
