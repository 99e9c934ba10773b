import Kerberos.Enctype
import Kerberos.Text.Record

/-!
# Keys

A key is key material together with the encryption type it is meant for. The type is a label: it
is the length of the material that the ciphers check. Diagnostic output never shows the material.
-/

namespace Kerberos

/-- Key material for an encryption type. -/
structure Key where
  enctype : Enctype
  bytes : List UInt8
  deriving DecidableEq

namespace Key

def length (k : Key) : Nat :=
  k.bytes.length

def isEmpty (k : Key) : Bool :=
  k.bytes.isEmpty

/-- The key in diagnostic output: its type and length only. -/
def describeBlock (k : Key) : String :=
  Text.Record.describePart "KeyBlock" [⟨"enctype", .word k.enctype.label⟩, ⟨"len", .number k.length⟩]

def describe (k : Key) : String :=
  Text.Record.describe "Key" [⟨"keyblock", .word k.describeBlock⟩]

end Key

/-- What callers hold in place of a key: a handle on it. -/
structure KeyHandle where
  key : Key
  deriving DecidableEq

end Kerberos
