import Kerberos.CommandLine.FileTree
import Kerberos.CommandLine.Run
import Kerberos.Proofs.Text.Hex

/-!
# Messages from files

A file in the working directory is found by its name, in front of which the path may say any number
of times that it stays in this directory; standard input is found as a device. Whatever file a
message comes from, a command does with it what it does with the same bytes in hexadecimal digits:
`run_file_eq_run_text`.
-/

namespace Kerberos
namespace CommandLine

/-- The names that a file can have. -/
structure IsFileName (name : String) : Prop where
  not_empty : name ≠ ""
  not_here : name ≠ "."
  not_above : name ≠ ".."
  no_slash : '/' ∉ name.toList

/-- The paths from a directory to a name in it. -/
inductive LeadsTo (name : String) : String → Prop
  | name : LeadsTo name name
  | here {path : String} (h : LeadsTo name path) : LeadsTo name ("./" ++ path)

namespace FileTree

variable {name path : String}

/-! ## Walking -/

theorem staysHere_eq_false (h : IsFileName name) : staysHere name = false := by
  simp [staysHere, h.not_empty, h.not_here]

/-- Parts that stay in a directory lead nowhere else. -/
theorem walk_append_of_staysHere (t : FileTree) (here : Place) {front : List String}
    (h : ∀ part ∈ front, staysHere part = true) (parts : List String) :
    t.walk here (front ++ parts) = t.walk here parts := by
  induction front with
  | nil => rfl
  | cons part rest ih =>
    rw [List.forall_mem_cons] at h
    rw [List.cons_append, walk, if_pos h.1, ih h.2]

/-- What is read at the end of a path is what stands under the last name. -/
theorem walk_name (t : FileTree) (here : Place) (h : IsFileName name) :
    t.walk here [name] =
      match t.entries.lookup (t.step here name) with
      | none => .error (absent name)
      | some .directory => .error .isDirectory
      | some (.file bytes) => .ok bytes
      | some (.broken flaw) => .error flaw := by
  rw [walk, staysHere_eq_false h, if_neg Bool.false_ne_true, if_neg h.not_above]
  cases hentry : t.entries.lookup (t.step here name) with
  | none => simp only [hentry]
  | some entry => cases entry <;> simp only [hentry, walk]

/-- A directory is entered, or where its link leads. -/
theorem walk_directory (t : FileTree) (here : Place) (h : IsFileName name)
    (hentry : t.entries.lookup (t.step here name) = some .directory) (rest : List String) :
    t.walk here (name :: rest) = t.walk (t.step here name) rest := by
  rw [walk, staysHere_eq_false h, if_neg Bool.false_ne_true, if_neg h.not_above]
  simp only [hentry]

/-! ## Paths -/

theorem pathParts_of_leadsTo (hname : IsFileName name) (h : LeadsTo name path) :
    ∃ front, pathParts path = front ++ [name] ∧ ∀ part ∈ front, part = "." := by
  induction h with
  | name =>
    refine ⟨[], ?_, by simp⟩
    simp [pathParts, Text.parts_of_not_mem hname.no_slash]
  | @here path _ ih =>
    rcases ih with ⟨front, hparts, hfront⟩
    refine ⟨"." :: front, ?_, List.forall_mem_cons.2 ⟨rfl, hfront⟩⟩
    have htext : ("./" ++ path).toList = ['.'] ++ '/' :: path.toList := by simp
    have hcut : Text.parts '/' ("./" ++ path).toList = ['.'] :: Text.parts '/' path.toList := by
      rw [htext, Text.parts_append (by decide)]
    rw [pathParts, hcut, List.map_cons, List.cons_append, ← hparts]
    rfl

theorem ne_empty_of_leadsTo (hname : IsFileName name) (h : LeadsTo name path) : path ≠ "" := by
  cases h with
  | name => exact hname.not_empty
  | here h => simp

/-- A path to a name is read like the name alone, unless it is too long. -/
theorem read_of_leadsTo (t : FileTree) (working : Place) (hname : IsFileName name)
    (h : LeadsTo name path) (hlength : (Text.Utf8.encode path).length < pathLimit) :
    t.read working path = t.walk working [name] := by
  rcases pathParts_of_leadsTo hname h with ⟨front, hparts, hfront⟩
  have hempty : path.isEmpty = false := by simp [ne_empty_of_leadsTo hname h]
  -- the first part is not empty, so the path does not start at the root
  have hrelative : (pathParts path).head?.any (·.isEmpty) = false := by
    rw [hparts]
    cases front with
    | nil => simp [hname.not_empty]
    | cons part rest => simp [hfront part List.mem_cons_self]
  have hstays : ∀ part ∈ front, staysHere part = true := by
    intro part hpart
    rw [hfront part hpart]
    rfl
  rw [read, hempty, if_neg Bool.false_ne_true, if_neg (Nat.not_le.2 hlength)]
  simp only [hrelative, if_neg Bool.false_ne_true]
  rw [hparts, walk_append_of_staysHere t working hstays]

/-! ## The working directory -/

variable {files : List (String × List UInt8)} {input : List UInt8}

theorem lookup_standardEntries (input : List UInt8) (name : String) :
    (standardEntries input).lookup (workingPlace ++ [name]) = none := by
  -- a place in the working directory has three names, and nothing else starts like it but the
  -- directory itself
  have hplaces : ∀ place ∈ (standardEntries input).map (·.1),
      place.take 2 = workingPlace → place.length = 2 := by
    change ∀ place ∈ [["dev", "null"], ["dev", "tty"], inputPlace] ++
      (workingPlace :: standardDirectories), place.take 2 = workingPlace → place.length = 2
    decide
  rw [List.lookup_eq_none_iff]
  intro e he
  rw [bne_iff_ne]
  intro hplace
  have hlength := hplaces e.1 (List.mem_map_of_mem he)
  rw [← hplace] at hlength
  cases hlength rfl

theorem lookup_files (files : List (String × List UInt8)) (name : String) :
    (files.map fun f => (workingPlace ++ [f.1], Entry.file f.2)).lookup (workingPlace ++ [name]) =
      (files.lookup name).map Entry.file := by
  induction files with
  | nil => rfl
  | cons f rest ih =>
    rcases f with ⟨first, bytes⟩
    have hsame : (workingPlace ++ [name] == workingPlace ++ [first]) = (name == first) := by
      rw [Bool.eq_iff_iff]
      simp
    simp only [List.map_cons, List.lookup_cons, hsame, ih]
    cases name == first <;> rfl

theorem step_workingPlace (files : List (String × List UInt8)) (input : List UInt8)
    (name : String) :
    (standard files input).step workingPlace name = workingPlace ++ [name] := by
  have hlinks : standardLinks.lookup (workingPlace ++ [name]) = none := by
    rfl
  simp only [step, standard, hlinks, Option.getD_none]

/-- In the working directory stand the given files and nothing else. -/
theorem read_standard (files : List (String × List UInt8)) (input : List UInt8)
    (hname : IsFileName name) (h : LeadsTo name path)
    (hlength : (Text.Utf8.encode path).length < pathLimit) :
    (standard files input).read workingPlace path =
      match files.lookup name with
      | some bytes => .ok bytes
      | none => .error (absent name) := by
  have hentry : (standard files input).entries.lookup (workingPlace ++ [name]) =
      (files.lookup name).map Entry.file := by
    rw [standard, List.lookup_append, lookup_files, lookup_standardEntries, Option.or_none]
  rw [read_of_leadsTo _ _ hname h hlength, walk_name _ _ hname, step_workingPlace, hentry]
  cases files.lookup name <;> rfl

/-- What stands elsewhere does not depend on the files. -/
theorem lookup_elsewhere (files : List (String × List UInt8)) (input : List UInt8) {place : Place}
    (h : place.take 2 ≠ workingPlace) :
    (standard files input).entries.lookup place = (standardEntries input).lookup place := by
  have hfiles :
      (files.map fun f => (workingPlace ++ [f.1], Entry.file f.2)).lookup place = none := by
    rw [List.lookup_eq_none_iff, List.forall_mem_map]
    intro f _
    rw [bne_iff_ne]
    rintro rfl
    exact h rfl
  rw [standard, List.lookup_append, hfiles, Option.none_or]

/-- Standard input can be read as a device. -/
theorem read_standardInput (files : List (String × List UInt8)) (input : List UInt8) :
    (standard files input).read workingPlace "/dev/stdin" = .ok input := by
  have hdevices : IsFileName "dev" := ⟨by decide, by decide, by decide, by decide⟩
  have hdevice : IsFileName "stdin" := ⟨by decide, by decide, by decide, by decide⟩
  have hdirectory : (standard files input).step [] "dev" = ["dev"] := rfl
  have hentry : (standard files input).entries.lookup ["dev"] = some .directory :=
    lookup_elsewhere files input (by decide)
  have hinput : (standard files input).entries.lookup inputPlace = some (.file input) :=
    lookup_elsewhere files input (by decide)
  have hlink : (standard files input).step ["dev"] "stdin" = inputPlace := rfl
  have hparts : pathParts "/dev/stdin" = [""] ++ ["dev", "stdin"] := by decide
  have hroot : (standard files input).read workingPlace "/dev/stdin" =
      (standard files input).walk [] ([""] ++ ["dev", "stdin"]) := by
    rw [← hparts]
    rfl
  rw [hroot, walk_append_of_staysHere _ _ (by decide),
    walk_directory (standard files input) [] hdevices (hdirectory ▸ hentry), hdirectory,
    walk_name _ _ hdevice, hlink, hinput]

/-- The messages that can be read, and the paths at which they are found. -/
inductive Holds (files : List (String × List UInt8)) (input : List UInt8) :
    String → List UInt8 → Prop
  | file {name path : String} {bytes : List UInt8} (hname : IsFileName name)
      (hpath : LeadsTo name path) (hlength : (Text.Utf8.encode path).length < pathLimit)
      (hbytes : files.lookup name = some bytes) : Holds files input path bytes
  | input : Holds files input "/dev/stdin" input

theorem read_of_holds {path : String} {bytes : List UInt8} (h : Holds files input path bytes) :
    (standard files input).read workingPlace path = .ok bytes := by
  cases h with
  | file hname hpath hlength hbytes => rw [read_standard files input hname hpath hlength, hbytes]
  | input => exact read_standardInput files input

end FileTree

/-! ## Commands with a message -/

/-- The same command with its message from elsewhere. -/
def Command.withSource (source : Source) : Command → Command
  | hmac hash key _ => .hmac hash key source
  | encrypt request => .encrypt { request with source }
  | decrypt request => .decrypt { request with source }
  | cbcMac key iv _ => .cbcMac key iv source
  | command => command

/-- A command reads its message and has no other use for where it comes from. -/
theorem perform_withSource_congr {w : Surroundings} {source source' : Source}
    (h : readSource w source = readSource w source') (command : Command) :
    perform w (command.withSource source) = perform w (command.withSource source') := by
  cases command with
  | providers json => rfl
  | pbkdf2 salt iterations length => rfl
  | hmac hash key _ => simp only [Command.withSource, perform, performHmac, h]
  | encrypt request => simp only [Command.withSource, perform, performTransform, h]
  | decrypt request => simp only [Command.withSource, perform, performTransform, h]
  | cbcMac key iv _ => simp only [Command.withSource, perform, performCbcMac, h]
  | desKey request => rfl

/-- Two command lines with the same command, one with a message from a file of the working directory
or from standard input, the other with the same bytes in hexadecimal digits, give the same run. -/
theorem run_file_eq_run_text (w : Surroundings) (files : List (String × List UInt8))
    {path hex : String} {bytes : List UInt8} (hfile : FileTree.Holds files w.input path bytes)
    (hhex : Text.Hex.Spells hex bytes) {words words' : List String} {command : Command}
    {log : Option String}
    (hwords : parse words = .ok ⟨command.withSource (.file path), log⟩)
    (hwords' : parse words' = .ok ⟨command.withSource (.text hex), log⟩) :
    let w' : Surroundings :=
      { w with fileContent := (FileTree.standard files w.input).read FileTree.workingPlace }
    run w' words = run w' words' := by
  intro w'
  have hsource : readSource w' (.file path) = readSource w' (.text hex) := by
    have hread : w'.fileContent path = .ok bytes := FileTree.read_of_holds hfile
    simp only [readSource, hread, readHex, Text.Hex.decode_trim_of_spells hhex]
  have hperform := perform_withSource_congr hsource command
  have hfilter : logFilter w' ⟨command.withSource (.file path), log⟩ =
      logFilter w' ⟨command.withSource (.text hex), log⟩ := rfl
  simp only [run, hwords, hwords', hperform, hfilter]

end CommandLine
end Kerberos
