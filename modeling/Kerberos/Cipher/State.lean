import Kerberos.Arcfour
import Kerberos.Text.Record

/-!
# Cipher states

What a cipher keeps from one message to the next: a chaining value for block ciphers, the place in
the keystream for the stream cipher. A stream state takes its key from the first message.
-/

namespace Kerberos

/-- The state of a keystream between two messages. -/
inductive StreamState
  /-- No message has been processed and no key has been set. -/
  | uninitialized
  /-- The keystream goes on with this generator. -/
  | active (generator : Arcfour.Generator)
  deriving DecidableEq

/-- The state of a cipher between two messages. -/
inductive CipherState
  | iv (bytes : List UInt8)
  | arcfour (stream : StreamState)
  deriving DecidableEq

namespace StreamState

def isActive : StreamState → Bool
  | uninitialized => false
  | active _ => true

def describe : StreamState → String
  | uninitialized => "Uninitialized"
  | active _ => "Active"

end StreamState

namespace CipherState

def asIv? : CipherState → Option (List UInt8)
  | iv bytes => some bytes
  | arcfour _ => none

/-- The state in diagnostic output, which shows no bytes of it. -/
def describe : CipherState → String
  | iv bytes => "Iv(" ++ Nat.repr bytes.length ++ ")"
  | arcfour stream => "Arcfour(" ++ stream.describe ++ ")"

end CipherState
end Kerberos
