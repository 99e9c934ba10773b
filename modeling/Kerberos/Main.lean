import Kerberos.CommandLine.Run

/-!
# The program

Collects the surroundings of a run, runs the tool, and prints what the run leaves. Standard input
is read only if the command needs it, and then only to the end of its first line.
-/

namespace Kerberos
namespace CommandLine

/-- Reads standard input up to the end of its first line. -/
partial def readInputLine (stream : IO.FS.Stream) (found : List UInt8) : IO (List UInt8) := do
  let piece := (← stream.read 4096).toList
  if piece.isEmpty || piece.contains 0x0A then return found ++ piece
  readInputLine stream (found ++ piece)

/-- The number of a system error, which may be given with its sign reversed. -/
def systemNumber (code : UInt32) : UInt32 :=
  min code (0 - code)

def fileFlaw (e : IO.Error) : FileFlaw :=
  match e with
  | .noFileOrDirectory .. => .missing
  | .inappropriateType _ code _ => if systemNumber code = 20 then .notDirectory else .isDirectory
  | .invalidArgument _ code _ =>
    if systemNumber code = 36 then .nameTooLong else .other (toString e)
  | .noSuchThing _ code _ => if systemNumber code = 6 then .noDevice else .other (toString e)
  | _ => .other (toString e)

/-- Reads the file that a command takes its message from. -/
def readMessageFile : Source → IO (Except FileFlaw (List UInt8))
  | .text _ => return .error .missing
  | .file path => do
    try
      return .ok (← IO.FS.readBinFile path).toList
    catch e =>
      return .error (fileFlaw e)

def collect (command : Command) : IO Surroundings := do
  let password ← IO.getEnv "K5CORE_PASSWORD"
  let logFilter ← IO.getEnv "K5CORE_LOG"
  let input ←
    match command, password.getD "" with
    | .pbkdf2 .., "" => readInputLine (← IO.getStdin) []
    | _, _ => pure []
  let file ←
    match command.source? with
    | some source => readMessageFile source
    | none => pure (.error .missing)
  let random ←
    match command with
    | .desKey .random => pure (← IO.getRandomBytes (USize.ofNat Des.randomSize)).toList
    | _ => pure []
  return { password, logFilter, input, fileContent := fun _ => file, random }

/-- The surroundings of a command line that is not understood, which needs none. -/
def noSurroundings : Surroundings :=
  { password := none, logFilter := none, input := [], fileContent := fun _ => .error .missing,
    random := [] }

/-- Runs the tool on the words of a command line and gives its exit code. -/
def runProgram (words : List String) : IO UInt32 := do
  let w ←
    match parse words with
    | .ok invocation => collect invocation.command
    | .error _ => pure noSurroundings
  let result := run w words
  for text in result.log do
    IO.eprintln text
  IO.eprint result.report
  IO.print result.output
  return UInt32.ofNat result.code

end CommandLine
end Kerberos

def main (words : List String) : IO UInt32 :=
  Kerberos.CommandLine.runProgram words
