/-!
# Cipher block chaining

Each block is mixed with the encryption of the block before it, the first one with a starting
value. `encrypt`, `decrypt` and `mac` say what chaining makes of a list of blocks. The two steps
handle one block and give the chaining value for the next, which is the encrypted block in both
directions.
-/

namespace Kerberos
namespace Chaining

variable {w : Nat}

/-! ## One block -/

/-- Encrypts a block: the result and the chaining value after it. -/
def encryptStep (cipher : BitVec w → BitVec w) (chain block : BitVec w) : BitVec w × BitVec w :=
  let out := cipher (block ^^^ chain)
  (out, out)

/-- Decrypts a block: the result and the chaining value after it. -/
def decryptStep (inverse : BitVec w → BitVec w) (chain block : BitVec w) : BitVec w × BitVec w :=
  (inverse block ^^^ chain, block)

/-! ## Lists of blocks -/

def encrypt (cipher : BitVec w → BitVec w) : BitVec w → List (BitVec w) → List (BitVec w)
  | _, [] => []
  | chain, block :: rest =>
    let out := cipher (block ^^^ chain)
    out :: encrypt cipher out rest

def decrypt (inverse : BitVec w → BitVec w) : BitVec w → List (BitVec w) → List (BitVec w)
  | _, [] => []
  | chain, block :: rest => (inverse block ^^^ chain) :: decrypt inverse block rest

/-- The last chaining value: the authentication code of some blocks. -/
def mac (cipher : BitVec w → BitVec w) (chain : BitVec w) (blocks : List (BitVec w)) : BitVec w :=
  blocks.foldl (fun c block => cipher (block ^^^ c)) chain

end Chaining
end Kerberos
