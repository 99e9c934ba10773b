import Kerberos.Digest.Md5
import Kerberos.Digest.Sha1
import Kerberos.Digest.Sha256
import Kerberos.Error

/-!
# Digests by name

A hash is described by a name and two declared sizes. The name alone selects the digest, by what
it starts with, so a description may declare other sizes than the digest has.
-/

namespace Kerberos

/-- The digests of the library. -/
inductive Digest
  | md5
  | sha1
  | sha256
  deriving DecidableEq

/-- The description of a hash. -/
structure HashInfo where
  name : String
  /-- The declared number of bytes of a digest. -/
  size : Nat
  /-- The declared number of bytes of a block, which bounds the length of a key. -/
  blockSize : Nat
  deriving DecidableEq

namespace Digest

def size : Digest → Nat
  | md5 => 16
  | sha1 => 20
  | sha256 => 32

def hash : Digest → List UInt8 → List UInt8
  | md5 => Md5.construction.hash
  | sha1 => Sha1.construction.hash
  | sha256 => Sha256.construction.hash

def label : Digest → String
  | md5 => "Md5"
  | sha1 => "Sha1"
  | sha256 => "Sha256"

def nameStartsWith (start name : String) : Bool :=
  start.toList.isPrefixOf name.toList

def ofName? (name : String) : Option Digest :=
  if nameStartsWith "SHA1" name then some sha1
  else if nameStartsWith "SHA256" name then some sha256
  else if nameStartsWith "MD5" name then some md5
  else none

def ofInfo (info : HashInfo) : Except Error Digest :=
  match ofName? info.name with
  | some d => .ok d
  | none => .error .internal

end Digest

namespace HashInfo

def builtin : List HashInfo :=
  [⟨"MD5", 16, 64⟩, ⟨"SHA1", 20, 64⟩, ⟨"SHA256", 32, 64⟩]

end HashInfo
end Kerberos
