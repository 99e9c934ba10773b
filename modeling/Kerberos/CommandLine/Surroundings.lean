/-!
# The surroundings of a run

What a run of the tool takes from outside its command line: two environment variables, standard
input, the files it can read, and random bytes.
-/

namespace Kerberos
namespace CommandLine

/-- Why a file cannot be read. -/
inductive FileFlaw
  | missing
  | isDirectory
  | notDirectory
  | nameTooLong
  | noDevice
  /-- Any other reason, in the words of the system. -/
  | other (words : String)
  deriving DecidableEq

def FileFlaw.message : FileFlaw → String
  | .missing => "No such file or directory (os error 2)"
  | .isDirectory => "Is a directory (os error 21)"
  | .notDirectory => "Not a directory (os error 20)"
  | .nameTooLong => "File name too long (os error 36)"
  | .noDevice => "No such device or address (os error 6)"
  | .other words => words

/-- What a run takes from outside its command line. -/
structure Surroundings where
  /-- The password in the environment. -/
  password : Option String
  /-- The log filter in the environment. -/
  logFilter : Option String
  /-- All bytes of standard input. -/
  input : List UInt8
  /-- The bytes of the file at a path. -/
  fileContent : String → Except FileFlaw (List UInt8)
  /-- Random bytes, as many as a key needs. -/
  random : List UInt8

end CommandLine
end Kerberos
