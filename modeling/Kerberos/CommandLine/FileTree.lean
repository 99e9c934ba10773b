import Kerberos.CommandLine.Surroundings
import Kerberos.Text.Parts
import Kerberos.Text.Utf8

/-!
# File trees

Where the paths of a command line lead. A file tree says what stands at which place; a path is
walked through it part by part, from the root or from the working directory. `FileTree.standard`
is a working directory with some files in it, on a system that has nothing besides but what every
system has: its directories, the empty file, standard input, and a terminal that is not there.
-/

namespace Kerberos
namespace CommandLine

/-- Where something stands: the names on the way from the root. -/
abbrev Place := List String

/-- What stands at a place. -/
inductive Entry
  | directory
  | file (bytes : List UInt8)
  /-- Something that cannot be read. -/
  | broken (flaw : FileFlaw)

/-- What stands at which place. A link leads from a place to another one that is no link. -/
structure FileTree where
  entries : List (Place × Entry)
  links : List (Place × Place)

namespace FileTree

/-! ## Paths -/

/-- The number of bytes from which on a path is too long. -/
def pathLimit : Nat := 4096

def largestName : Nat := 255

/-- Whether a part of a path stays where it is. -/
def staysHere (part : String) : Bool :=
  part.isEmpty || part == "."

/-- Why a name that a directory does not have cannot be looked up in it. -/
def absent (name : String) : FileFlaw :=
  if largestName < (Text.Utf8.encode name).length then .nameTooLong else .missing

/-- The place with a name in a directory, or where the link of that name leads. -/
def step (t : FileTree) (here : Place) (name : String) : Place :=
  let next := here ++ [name]
  (t.links.lookup next).getD next

/-- Reads the file at a path, given by its parts, from a directory on. A directory cannot be read,
and nothing else can be entered. The root is above itself. -/
def walk (t : FileTree) (here : Place) : List String → Except FileFlaw (List UInt8)
  | [] => .error .isDirectory
  | part :: rest =>
    if staysHere part then t.walk here rest
    else if part = ".." then t.walk here.dropLast rest
    else
      let next := t.step here part
      match t.entries.lookup next, rest with
      | none, _ => .error (absent part)
      | some .directory, _ => t.walk next rest
      | some _, _ :: _ => .error .notDirectory
      | some (.file bytes), [] => .ok bytes
      | some (.broken flaw), [] => .error flaw

/-- The parts of a path, which are separated by slashes. -/
def pathParts (path : String) : List String :=
  (Text.parts '/' path.toList).map String.ofList

/-- Reads the file at a path, which starts at the root if a slash comes first and at `working`
otherwise. The length of the whole path is looked at before anything else. -/
def read (t : FileTree) (working : Place) (path : String) : Except FileFlaw (List UInt8) :=
  if path.isEmpty then .error .missing
  else if pathLimit ≤ (Text.Utf8.encode path).length then .error .nameTooLong
  else
    let parts := pathParts path
    t.walk (if parts.head?.any (·.isEmpty) then [] else working) parts

/-! ## A working directory -/

/-- The place of the working directory. No path gives the empty name, so nothing but the working
directory itself knows the way. -/
def workingPlace : Place :=
  ["tmp", ""]

def standardDirectories : List Place :=
  [[], ["bin"], ["dev"], ["etc"], ["home"], ["lib"], ["mnt"], ["opt"], ["proc"], ["run"], ["sbin"],
   ["srv"], ["sys"], ["tmp"], ["usr"], ["var"], ["dev", "pts"], ["dev", "shm"], ["usr", "bin"],
   ["usr", "lib"], ["var", "tmp"], ["proc", "self"], ["proc", "self", "fd"]]

def inputPlace : Place :=
  ["proc", "self", "fd", "0"]

/-- The files that every system has, with the bytes of standard input. -/
def standardFiles (input : List UInt8) : List (Place × Entry) :=
  [(["dev", "null"], .file []), (["dev", "tty"], .broken .noDevice), (inputPlace, .file input)]

def standardLinks : List (Place × Place) :=
  [(["dev", "stdin"], inputPlace), (["dev", "fd"], ["proc", "self", "fd"]),
   (["proc", "self", "cwd"], workingPlace), (["proc", "self", "root"], [])]

/-- What is there besides the files of the working directory. -/
def standardEntries (input : List UInt8) : List (Place × Entry) :=
  standardFiles input ++ (workingPlace :: standardDirectories).map (·, .directory)

/-- The tree in which some files stand in the working directory. -/
def standard (files : List (String × List UInt8)) (input : List UInt8) : FileTree :=
  { entries :=
      files.map (fun f => (workingPlace ++ [f.1], Entry.file f.2)) ++ standardEntries input
    links := standardLinks }

end FileTree
end CommandLine
end Kerberos
