/-!
# UTF-8

`encode` gives the bytes of a text. Reading goes by the standard's table of well-formed byte
sequences: the lead byte fixes how many continuation bytes follow and the range of the first of
them. A sequence that the table does not allow is broken off before the first byte that does not
fit, which makes the part read so far a maximal one; `decode?` refuses a text with such a part
and `decodeReplacing` puts one replacement character in the place of each.
-/

namespace Kerberos
namespace Text
namespace Utf8

def encode (text : String) : List UInt8 :=
  text.toList.flatMap String.utf8EncodeChar

/-- The character that stands for a malformed part of a text. -/
def replacement : Char := '\uFFFD'

/-- What the lead byte of a sequence of several bytes says: how many bytes follow the first
continuation byte, and the least and the greatest value of that byte. -/
structure Lead where
  more : Nat
  low : UInt8
  high : UInt8

/-- The table of well-formed sequences, by lead byte. Overlong forms, surrogates and values
above U+10FFFF are excluded by the range of the first continuation byte. -/
def lead? (b : UInt8) : Option Lead :=
  if b < 0xC2 then none
  else if b < 0xE0 then some ⟨0, 0x80, 0xBF⟩
  else if b = 0xE0 then some ⟨1, 0xA0, 0xBF⟩
  else if b = 0xED then some ⟨1, 0x80, 0x9F⟩
  else if b < 0xF0 then some ⟨1, 0x80, 0xBF⟩
  else if b = 0xF0 then some ⟨2, 0x90, 0xBF⟩
  else if b < 0xF4 then some ⟨2, 0x80, 0xBF⟩
  else if b = 0xF4 then some ⟨2, 0x80, 0x8F⟩
  else none

/-- The bits of the code point that a lead byte carries, when `more + 1` bytes follow it. -/
def leadBits (l : Lead) (b : UInt8) : Nat :=
  b.toNat % (1 <<< (5 - l.more))

/-- Adds the six bits of a continuation byte to a code point. -/
def extend (point : Nat) (b : UInt8) : Nat :=
  64 * point + b.toNat % 64

/-- Reads `n` further continuation bytes; the rest starts at the first byte not taken. -/
def readTail : Nat → Nat → List UInt8 → Option Char × List UInt8
  | 0, point, rest => (some (Char.ofNat point), rest)
  | _ + 1, _, [] => (none, [])
  | n + 1, point, b :: rest =>
    if 0x80 ≤ b ∧ b ≤ 0xBF then readTail n (extend point b) rest else (none, b :: rest)

/-- Reads the sequence that starts with `b`: its character, or `none` for a malformed part, and
the bytes after it. -/
def read (b : UInt8) (rest : List UInt8) : Option Char × List UInt8 :=
  if b < 0x80 then (some (Char.ofNat b.toNat), rest)
  else
    match lead? b, rest with
    | some l, c :: rest' =>
      if l.low ≤ c ∧ c ≤ l.high then readTail l.more (extend (leadBits l b) c) rest'
      else (none, c :: rest')
    | _, _ => (none, rest)

def scanUpTo : Nat → List UInt8 → List (Option Char)
  | 0, _ => []
  | _, [] => []
  | fuel + 1, b :: rest =>
    let (c, rest') := read b rest
    c :: scanUpTo fuel rest'

/-- The characters and malformed parts of a byte string, in order. Every one takes at least one
byte, so the length is fuel enough. -/
def scan (bytes : List UInt8) : List (Option Char) :=
  scanUpTo bytes.length bytes

/-- The text with these UTF-8 bytes, if there is one. -/
def decode? (bytes : List UInt8) : Option String :=
  ((scan bytes).mapM id).map String.ofList

/-- The text with a replacement character for each malformed part. -/
def decodeReplacing (bytes : List UInt8) : String :=
  String.ofList ((scan bytes).map (·.getD replacement))

end Utf8
end Text
end Kerberos
