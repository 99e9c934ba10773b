import Kerberos.Digest
import Kerberos.Key
import Kerberos.Message

/-!
# Keyed authentication codes

The code of a message under a key is the digest of the key, mixed with one pad, and the digest of
the key, mixed with another pad, and the message. `Hmac.code` says this for a message in one
piece. `Hmac.Mac` takes the message in pieces, and `Hmac.authenticate` computes the code of the
signed bytes of a message into an output buffer.

The checks of `authenticate` go by the sizes that a hash declares, while the bytes written are
those of the digest that its name selects. An output that is long enough for the declared size and
too short for the digest is a breakdown.
-/

namespace Kerberos
namespace Hmac

open Digest (Construction Absorber blockSize)

/-! ## The code of a message -/

/-- The key in a whole block: a longer key is replaced by its digest, a shorter one filled up. -/
def blockKey (hash : List UInt8 → List UInt8) (key : List UInt8) : List UInt8 :=
  let short := if blockSize < key.length then hash key else key
  short ++ List.replicate (blockSize - short.length) 0

/-- The key mixed with the pad for the message. -/
def innerKey (hash : List UInt8 → List UInt8) (key : List UInt8) : List UInt8 :=
  (blockKey hash key).map (· ^^^ 0x36)

/-- The key mixed with the pad for the inner digest. -/
def outerKey (hash : List UInt8 → List UInt8) (key : List UInt8) : List UInt8 :=
  (blockKey hash key).map (· ^^^ 0x5C)

def code (hash : List UInt8 → List UInt8) (key message : List UInt8) : List UInt8 :=
  hash (outerKey hash key ++ hash (innerKey hash key ++ message))

/-! ## The code of a message in pieces -/

/-- A code under way: the inner digest, which has taken in the message so far, and the outer one,
which waits for it. -/
structure Mac (σ : Type) where
  inner : Absorber σ
  outer : Absorber σ

namespace Mac

variable {σ : Type}

def start (c : Construction σ) (key : List UInt8) : Mac σ :=
  { inner := (Absorber.start c).absorb c (innerKey c.hash key)
    outer := (Absorber.start c).absorb c (outerKey c.hash key) }

def update (c : Construction σ) (m : Mac σ) (piece : List UInt8) : Mac σ :=
  { m with inner := m.inner.absorb c piece }

def finish (c : Construction σ) (m : Mac σ) : List UInt8 :=
  (m.outer.absorb c (m.inner.finish c)).finish c

def ofPieces (c : Construction σ) (key : List UInt8) (pieces : List (List UInt8)) : List UInt8 :=
  (pieces.foldl (update c) (start c key)).finish c

end Mac

/-- The code of a message in pieces, by one of the digests of the library. -/
def codeOfPieces : Digest → List UInt8 → List (List UInt8) → List UInt8
  | .md5 => Mac.ofPieces Digest.Md5.construction
  | .sha1 => Mac.ofPieces Digest.Sha1.construction
  | .sha256 => Mac.ofPieces Digest.Sha256.construction

/-! ## Authenticating a message -/

/-- Writes the code of the signed bytes of a message at the start of `output` and answers the
declared size of the hash. -/
def authenticate (info : HashInfo) (key : Key) (m : Message) (output : List UInt8) :
    Outcome Fault (List UInt8) Nat :=
  if info.blockSize < key.length then ⟨.error (.error .internal), output⟩
  else if output.length < info.size then ⟨.error (.error .badMessageSize), output⟩
  else
    match Digest.ofInfo info with
    | .error e => ⟨.error (.error e), output⟩
    | .ok digest =>
      let tag := codeOfPieces digest key.bytes m.signedPieces
      if output.length < tag.length then ⟨.error .breakdown, output⟩
      else ⟨.ok info.size, tag ++ output.drop tag.length⟩

/-- Writes the same code for a caller that holds a handle on the key. -/
def authenticateByHandle (info : HashInfo) (handle : KeyHandle) (m : Message)
    (output : List UInt8) : Outcome Fault (List UInt8) Nat :=
  authenticate info handle.key m output

end Hmac
end Kerberos
