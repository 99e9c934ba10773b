import Kerberos.Text.Utf8

/-!
# Hexadecimal text

Bytes are written as two digits each. Reading takes digits of either case; it looks at the UTF-8
bytes of the text, checks their number first and then names the first byte that is no digit.
-/

namespace Kerberos
namespace Text
namespace Hex

/-- Why a text is not hexadecimal. A bad character is reported as the one byte that is wrong,
shown as the character with that number, together with its offset in bytes. -/
inductive Flaw
  | oddLength
  | badCharacter (c : Char) (position : Nat)
  deriving DecidableEq

/-! ## Writing -/

def lowerPair (b : UInt8) : List Char :=
  [Nat.digitChar (b.toNat / 16), Nat.digitChar (b.toNat % 16)]

def upperPair (b : UInt8) : List Char :=
  (lowerPair b).map Char.toUpper

def encode (bytes : List UInt8) : String :=
  String.ofList (bytes.flatMap lowerPair)

/-- Bytes as pairs of upper-case digits with a space between two pairs. -/
def encodeSpaced (bytes : List UInt8) : String :=
  String.ofList ([' '].intercalate (bytes.map upperPair))

/-! ## Reading -/

def digit? (b : UInt8) : Option UInt8 :=
  if 0x30 ≤ b ∧ b ≤ 0x39 then some (b - 0x30)
  else if 0x61 ≤ b ∧ b ≤ 0x66 then some (b - 0x57)
  else if 0x41 ≤ b ∧ b ≤ 0x46 then some (b - 0x37)
  else none

def digitAt (b : UInt8) (position : Nat) : Except Flaw UInt8 :=
  match digit? b with
  | some d => .ok d
  | none => .error (.badCharacter (Char.ofNat b.toNat) position)

/-- Reads pairs of digits, the first of which is at `position`. A single digit left over is
ignored, so the number of digits has to be checked before. -/
def decodePairs : List UInt8 → Nat → Except Flaw (List UInt8)
  | high :: low :: rest, position => do
    let h ← digitAt high position
    let l ← digitAt low (position + 1)
    let bytes ← decodePairs rest (position + 2)
    return (16 * h + l) :: bytes
  | _, _ => .ok []

def decode (text : String) : Except Flaw (List UInt8) :=
  let digits := Utf8.encode text
  if digits.length % 2 = 0 then decodePairs digits 0 else .error .oddLength

end Hex
end Text
end Kerberos
