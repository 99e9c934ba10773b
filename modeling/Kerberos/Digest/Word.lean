/-!
# Words of a digest

Words of 32 bits, their rotation, and the two orders in which they are made of bytes.
-/

namespace Kerberos
namespace Digest

/-- The word with its bits moved `n` places to the left in a ring. -/
def rotateLeft (x n : UInt32) : UInt32 :=
  (x <<< n) ||| (x >>> (32 - n))

/-- The word with its bits moved `n` places to the right in a ring. -/
def rotateRight (x n : UInt32) : UInt32 :=
  (x >>> n) ||| (x <<< (32 - n))

/-! ## The most significant byte first -/

/-- The words of a byte string, the most significant byte of each first. -/
def wordsBE : List UInt8 → List UInt32
  | a :: b :: c :: d :: rest =>
    ((a.toUInt32 <<< 24) ||| (b.toUInt32 <<< 16) ||| (c.toUInt32 <<< 8) ||| d.toUInt32) ::
      wordsBE rest
  | _ => []

/-- The bytes of a word, the most significant first. -/
def bytesBE (w : UInt32) : List UInt8 :=
  [(w >>> 24).toUInt8, (w >>> 16).toUInt8, (w >>> 8).toUInt8, w.toUInt8]

/-- A number in eight bytes, the most significant first. -/
def lengthBE (n : Nat) : List UInt8 :=
  bytesBE (UInt32.ofNat (n >>> 32)) ++ bytesBE (UInt32.ofNat n)

/-! ## The least significant byte first -/

/-- The words of a byte string, the least significant byte of each first. -/
def wordsLE : List UInt8 → List UInt32
  | a :: b :: c :: d :: rest =>
    (a.toUInt32 ||| (b.toUInt32 <<< 8) ||| (c.toUInt32 <<< 16) ||| (d.toUInt32 <<< 24)) ::
      wordsLE rest
  | _ => []

/-- The bytes of a word, the least significant first. -/
def bytesLE (w : UInt32) : List UInt8 :=
  (bytesBE w).reverse

/-- A number in eight bytes, the least significant first. -/
def lengthLE (n : Nat) : List UInt8 :=
  (lengthBE n).reverse

end Digest
end Kerberos
