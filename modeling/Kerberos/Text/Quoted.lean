import Kerberos.Text.Printable

/-!
# Quoted text

Text in quotation marks, as it stands in diagnostic output. The quotation mark in use and the
backslash are escaped, four control characters have escapes of their own, and every other
character that is not printable is written by its code point.
-/

namespace Kerberos
namespace Text
namespace Quoted

def singleMark : Char := Char.ofNat 39

def doubleMark : Char := Char.ofNat 34

/-- A character by its code point in lower-case hexadecimal digits. -/
def byCodePoint (c : Char) : List Char :=
  ['\\', 'u', '\x7b'] ++ Nat.toDigits 16 c.toNat ++ ['\x7d']

def escape (mark c : Char) : List Char :=
  if c = '\x00' then ['\\', '0']
  else if c = '\t' then ['\\', 't']
  else if c = '\r' then ['\\', 'r']
  else if c = '\n' then ['\\', 'n']
  else if c = mark ∨ c = '\\' then ['\\', c]
  else if isPrintable c then [c]
  else byCodePoint c

def char (c : Char) : String :=
  String.ofList ([singleMark] ++ escape singleMark c ++ [singleMark])

def text (s : String) : String :=
  String.ofList ([doubleMark] ++ s.toList.flatMap (escape doubleMark) ++ [doubleMark])

end Quoted
end Text
end Kerberos
