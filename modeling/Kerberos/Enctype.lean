import Kerberos.Text.Integer

/-!
# Encryption types

The encryption types that the library knows, with their assigned numbers and their names, and the
reading of a type from a number or a name.
-/

namespace Kerberos

/-- An encryption type. -/
inductive Enctype
  | desCbcCrc
  | desCbcMd4
  | desCbcMd5
  | arcfourHmac
  | camellia128CtsCmac
  | camellia256CtsCmac
  deriving DecidableEq

namespace Enctype

/-- All encryption types, by ascending number. -/
def all : List Enctype :=
  [desCbcCrc, desCbcMd4, desCbcMd5, arcfourHmac, camellia128CtsCmac, camellia256CtsCmac]

/-- The assigned number. -/
def number : Enctype → Int
  | desCbcCrc => 1
  | desCbcMd4 => 2
  | desCbcMd5 => 3
  | arcfourHmac => 23
  | camellia128CtsCmac => 25
  | camellia256CtsCmac => 26

def name : Enctype → String
  | desCbcCrc => "des-cbc-crc"
  | desCbcMd4 => "des-cbc-md4"
  | desCbcMd5 => "des-cbc-md5"
  | arcfourHmac => "arcfour-hmac"
  | camellia128CtsCmac => "camellia128-cts-cmac"
  | camellia256CtsCmac => "camellia256-cts-cmac"

def label : Enctype → String
  | desCbcCrc => "DesCbcCrc"
  | desCbcMd4 => "DesCbcMd4"
  | desCbcMd5 => "DesCbcMd5"
  | arcfourHmac => "ArcfourHmac"
  | camellia128CtsCmac => "Camellia128CtsCmac"
  | camellia256CtsCmac => "Camellia256CtsCmac"

def ofNumber? (n : Int) : Option Enctype :=
  all.find? (·.number = n)

def foldCase (text : String) : List Char :=
  text.toList.map Char.toLower

/-- The type with a name, in any case of its ASCII letters. -/
def ofName? (text : String) : Option Enctype :=
  all.find? (foldCase ·.name = foldCase text)

/-- Reads a type. A literal for a word stands for the type with that number and for no other; any
other text is a name, and so is a literal for a number that is no word. -/
def parse? (text : String) : Option Enctype :=
  match Text.Integer.word? text.toList with
  | some n => ofNumber? n
  | none => ofName? text

end Enctype
end Kerberos
