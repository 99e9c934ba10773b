import Kerberos.Cipher.State
import Kerberos.Error
import Kerberos.Key
import Kerberos.Message
import Kerberos.Size

/-!
# Transforms of messages

The terms that all ciphers share: the sizes that describe a cipher, the direction of a transform,
what a transform leaves behind, and the checks of the block ciphers.
-/

namespace Kerberos

/-- The sizes that describe a cipher. -/
structure CipherInfo where
  name : String
  /-- The number of bytes of a block; a stream cipher has blocks of one byte. -/
  blockSize : Nat
  /-- The number of random bytes that make a key. -/
  keyBytes : Nat
  /-- The number of bytes of a key. -/
  keyLength : Nat
  deriving DecidableEq

/-- The two directions of a transform. -/
inductive Direction
  | encrypt
  | decrypt
  deriving DecidableEq

/-- What a transform in place leaves: whether it succeeded, the message and the state, both of
which are there after a failure too. -/
structure Transformed where
  answer : Except Error Unit
  message : Message
  state : Option CipherState

namespace CipherInfo

/-- The fields of a description, under the names they have in output. -/
def fields (info : CipherInfo) : List Text.Field :=
  [⟨"name", .text info.name⟩, ⟨"block_size", .number info.blockSize⟩,
   ⟨"key_bytes", .number info.keyBytes⟩, ⟨"key_length", .number info.keyLength⟩]

def describe (info : CipherInfo) : String :=
  Text.Record.describe "ProviderInfo" info.fields

/-- The length of the encryption of `length` bytes and at least `padding` more, if it is a size:
the sum rounded up to whole blocks. -/
def encryptedLength (info : CipherInfo) (length padding : Nat) : Except Error Nat :=
  match (Size.add? length padding).bind (Size.roundUp? info.blockSize) with
  | some n => .ok n
  | none => .error .badMessageSize

/-- Checks a message for a block cipher: first the length of the key, then the length of the data
and of the chaining value. Answers whether there is any data to process. -/
def accept (info : CipherInfo) (key : Key) (iv : Option (List UInt8)) (m : Message) :
    Except Error Bool :=
  if key.length ≠ info.keyLength then .error .badKeySize
  else if m.dataLength % info.blockSize ≠ 0 ∨ iv.any (·.length ≠ info.blockSize) then
    .error .badMessageSize
  else .ok (m.dataLength ≠ 0)

end CipherInfo

namespace Direction

def verb : Direction → String
  | encrypt => "encrypt"
  | decrypt => "decrypt"

end Direction

namespace Transformed

/-- A transform that failed before it changed anything. -/
def refused (e : Error) (m : Message) (state : Option CipherState) : Transformed :=
  ⟨.error e, m, state⟩

end Transformed
end Kerberos
