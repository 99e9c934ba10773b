import Kerberos.Cipher.Transform

/-!
# The stream cipher over messages

Encryption and decryption both mix the data of a message with the keystream. An empty segment, of
whatever role, ends the part of the message that is processed. A state is keyed by the first
message that uses it; from then on it keeps its place in the keystream, and the keys of later
messages only need to have the right length.
-/

namespace Kerberos
namespace ArcfourStream

open Arcfour (Generator)

def info : CipherInfo :=
  ⟨"arcfour", 1, Arcfour.keySize, Arcfour.keySize⟩

/-! ## The part of a message that is processed -/

/-- Whether a segment does not end the processing. -/
def continues (s : Segment) : Bool :=
  !s.bytes.isEmpty

/-- The segments before the first empty one. -/
def reach (m : Message) : Message :=
  m.takeWhile continues

def processedLength (m : Message) : Nat :=
  Message.dataLength (reach m)

/-- Mixes the data segments of a message with the keystream. -/
def mixSegments (g : Generator) : Message → Message × Generator
  | [] => ([], g)
  | s :: rest =>
    if !continues s then (s :: rest, g)
    else if s.role.isEncrypted then
      let (bytes, g') := g.apply s.bytes
      let (rest', g'') := mixSegments g' rest
      ({ s with bytes } :: rest', g'')
    else
      let (rest', g') := mixSegments g rest
      (s :: rest', g')

/-! ## Transforms in place -/

/-- The generator that a stream goes on with, which a stream without a key takes from `key`. -/
def generator (key : Key) : StreamState → Generator
  | .uninitialized => Generator.ofKey key.bytes
  | .active g => g

/-- Encrypts or decrypts a message. Without a state the keystream starts anew. -/
def transform (key : Key) (state : Option CipherState) (m : Message) : Transformed :=
  if key.length ≠ Arcfour.keySize then .refused .badKeySize m state
  else
    match state with
    | some (.iv _) => .refused .internal m state
    | none => ⟨.ok (), (mixSegments (generator key .uninitialized) m).1, none⟩
    | some (.arcfour stream) =>
      let (m', g) := mixSegments (generator key stream) m
      ⟨.ok (), m', some (.arcfour (.active g))⟩

/-- The state of a new conversation, which has no key yet. -/
def freshState : CipherState :=
  .arcfour .uninitialized

end ArcfourStream
end Kerberos
