/-!
# Messages

A message is a list of segments, each with a role. Only data segments take part in encryption;
data segments and segments that are only signed take part in authentication. The flat views
`dataBytes` and `signedBytes` say what a message means to a cipher and to an authentication code,
however it is cut into segments.
-/

namespace Kerberos

/-- The role of a segment within a message. -/
inductive Role
  /-- Belongs to the transform that frames the message. -/
  | header
  /-- Encrypted and signed. -/
  | data
  /-- Bookkeeping of padding. -/
  | padding
  /-- A whole token in one piece. -/
  | stream
  /-- Signed, but never encrypted. -/
  | signOnly
  deriving DecidableEq

namespace Role

def isEncrypted : Role → Bool
  | data => true
  | _ => false

def isSigned : Role → Bool
  | data => true
  | signOnly => true
  | _ => false

end Role

/-- A part of a message. -/
structure Segment where
  role : Role
  bytes : List UInt8
  deriving DecidableEq

/-- A message in segments. -/
abbrev Message := List Segment

namespace Message

/-- The encrypted bytes, in order. -/
def dataBytes (m : Message) : List UInt8 :=
  (m.filter (·.role.isEncrypted)).flatMap (·.bytes)

def signedPieces (m : Message) : List (List UInt8) :=
  (m.filter (·.role.isSigned)).map (·.bytes)

def signedBytes (m : Message) : List UInt8 :=
  m.signedPieces.flatten

def dataLength (m : Message) : Nat :=
  ((m.filter (·.role.isEncrypted)).map (·.bytes.length)).foldr (· + ·) 0

theorem dataBytes_nil : dataBytes [] = [] :=
  rfl

theorem dataBytes_cons (s : Segment) (m : Message) :
    dataBytes (s :: m) = (if s.role.isEncrypted then s.bytes else []) ++ dataBytes m := by
  cases h : s.role.isEncrypted <;> simp [dataBytes, h]

theorem dataBytes_append (m m' : Message) : dataBytes (m ++ m') = m.dataBytes ++ m'.dataBytes := by
  simp [dataBytes]

theorem dataLength_cons (s : Segment) (m : Message) :
    dataLength (s :: m) = (if s.role.isEncrypted then s.bytes.length else 0) + dataLength m := by
  cases h : s.role.isEncrypted <;> simp [dataLength, h]

theorem length_dataBytes (m : Message) : m.dataBytes.length = m.dataLength := by
  induction m with
  | nil => rfl
  | cons s rest ih =>
    rw [dataBytes_cons, dataLength_cons, List.length_append, ih]
    cases s.role.isEncrypted <;> rfl

end Message
end Kerberos
