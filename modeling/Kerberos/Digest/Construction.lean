import Kerberos.Digest.Chunks

/-!
# Digests from compression functions

A digest is made from a compression function by padding the message to whole blocks and running
the function over them. The message can be given at once (`Construction.hash`) or in pieces
(`Absorber`): an absorber keeps the state after the whole blocks seen so far and the bytes that do
not fill a block yet.
-/

namespace Kerberos
namespace Digest

def blockSize : Nat := 64

/-- The parts of a digest: the state before the first block, the compression of one block into
the state, the field that holds the length of the message in bits, and the reading of the digest
from the last state. -/
structure Construction (σ : Type) where
  start : σ
  compress : σ → List UInt8 → σ
  lengthField : Nat → List UInt8
  output : σ → List UInt8

namespace Construction

variable {σ : Type} (c : Construction σ)

/-- What follows a message of `n` bytes: a one bit, zeros, and the length, which end a block. -/
def padding (n : Nat) : List UInt8 :=
  0x80 :: (List.replicate ((119 - n % blockSize) % blockSize) 0 ++ c.lengthField (8 * n))

def compressAll (state : σ) (bytes : List UInt8) : σ :=
  (chunks blockSize bytes).foldl c.compress state

def hash (message : List UInt8) : List UInt8 :=
  c.output (c.compressAll c.start (message ++ c.padding message.length))

end Construction

/-- A digest under way: the state after the whole blocks, the bytes after them, and the number of
all bytes so far. -/
structure Absorber (σ : Type) where
  state : σ
  pending : List UInt8
  length : Nat

namespace Absorber

variable {σ : Type}

def start (c : Construction σ) : Absorber σ :=
  ⟨c.start, [], 0⟩

def absorb (c : Construction σ) (a : Absorber σ) (bytes : List UInt8) : Absorber σ :=
  let available := a.pending ++ bytes
  { state := c.compressAll a.state available
    pending := leftover blockSize available
    length := a.length + bytes.length }

/-- The digest of the bytes taken in. -/
def finish (c : Construction σ) (a : Absorber σ) : List UInt8 :=
  c.output (c.compressAll a.state (a.pending ++ c.padding a.length))

end Absorber
end Digest
end Kerberos
