import Kerberos.Text.Quoted

/-!
# Records in text

A record is a name with labelled fields. It is shown on one line, as `Name { a: 1, b: "x" }`, or
as an object of the JSON format over several lines.
-/

namespace Kerberos
namespace Text

/-- The value of a field. -/
inductive Scalar
  /-- A number in decimal digits. -/
  | number (n : Nat)
  /-- A text, which is quoted. -/
  | text (s : String)
  /-- A word that is shown as it is. -/
  | word (s : String)

/-- A labelled value. -/
structure Field where
  label : String
  value : Scalar

namespace Record

/-! ## One line -/

def showScalar : Scalar → String
  | .number n => Nat.repr n
  | .text s => Quoted.text s
  | .word s => s

def showField (f : Field) : String :=
  f.label ++ ": " ++ showScalar f.value

/-- A name with parts between braces. -/
def braced (name : String) (parts : List String) : String :=
  name ++ " \x7b " ++ ", ".intercalate parts ++ " \x7d"

def describe (name : String) (fields : List Field) : String :=
  braced name (fields.map showField)

/-- A record on one line, with two dots for the fields that are not shown. -/
def describePart (name : String) (fields : List Field) : String :=
  braced name (fields.map showField ++ [".."])

/-! ## JSON -/

def jsonChar (c : Char) : List Char :=
  if c = Quoted.doubleMark ∨ c = '\\' then ['\\', c]
  else if c = '\x08' then ['\\', 'b']
  else if c = '\x0c' then ['\\', 'f']
  else if c = '\n' then ['\\', 'n']
  else if c = '\r' then ['\\', 'r']
  else if c = '\t' then ['\\', 't']
  else if c.toNat < 0x20 then
    ['\\', 'u', '0', '0', Nat.digitChar (c.toNat / 16), Nat.digitChar (c.toNat % 16)]
  else [c]

def jsonText (s : String) : String :=
  String.ofList ([Quoted.doubleMark] ++ s.toList.flatMap jsonChar ++ [Quoted.doubleMark])

def jsonScalar : Scalar → String
  | .number n => Nat.repr n
  | .text s => jsonText s
  | .word s => jsonText s

def indent (depth : Nat) : String :=
  String.ofList (List.replicate (2 * depth) ' ')

/-- Items between two brackets, one on a line, at some depth. -/
def jsonBlock (opening closing : String) (depth : Nat) (items : List String) : String :=
  if items.isEmpty then opening ++ closing
  else
    opening ++ "\n" ++ ",\n".intercalate (items.map (indent (depth + 1) ++ ·)) ++ "\n" ++
      indent depth ++ closing

/-- An object whose members are written already. -/
def jsonObject (depth : Nat) (members : List (String × String)) : String :=
  jsonBlock "\x7b" "\x7d" depth (members.map fun m => jsonText m.1 ++ ": " ++ m.2)

def jsonRecord (depth : Nat) (fields : List Field) : String :=
  jsonObject depth (fields.map fun f => (f.label, jsonScalar f.value))

def jsonArray (depth : Nat) (records : List (List Field)) : String :=
  jsonBlock "[" "]" depth (records.map (jsonRecord (depth + 1)))

end Record
end Text
end Kerberos
