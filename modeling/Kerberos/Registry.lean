import Kerberos.Cipher.Provider
import Kerberos.Hmac
import Kerberos.Registry.Table

/-!
# The registry

Ciphers and hashes by name. A hash is entered under its own name; a cipher can be entered under
any name. Checksums of messages are made and verified with the hashes of a registry.
-/

namespace Kerberos

/-- The ciphers and hashes that can be looked up by name. -/
structure Registry where
  ciphers : Registry.Table Provider
  hashes : Registry.Table HashInfo

namespace HashInfo

/-- The fields of a description, under the names they have in output. -/
def fields (info : HashInfo) : List Text.Field :=
  [⟨"name", .text info.name⟩, ⟨"hashsize", .number info.size⟩,
   ⟨"blocksize", .number info.blockSize⟩]

def describe (info : HashInfo) : String :=
  Text.Record.describe "HashProvider" info.fields

end HashInfo

namespace Registry

/-! ## Entering and looking up -/

def empty : Registry :=
  ⟨.empty, .empty⟩

def builtin : Registry :=
  { ciphers := .ofList (Provider.all.map fun p => (p.info.name, p))
    hashes := .ofList (HashInfo.builtin.map fun h => (h.name, h)) }

def registerCipher (r : Registry) (name : String) (p : Provider) : Outcome Error Registry Unit :=
  match r.ciphers.insert? name p with
  | some ciphers => ⟨.ok (), { r with ciphers }⟩
  | none => ⟨.error (.typeExists name), r⟩

def registerHash (r : Registry) (h : HashInfo) : Outcome Error Registry Unit :=
  match r.hashes.insert? h.name h with
  | some hashes => ⟨.ok (), { r with hashes }⟩
  | none => ⟨.error (.typeExists h.name), r⟩

def cipher (r : Registry) (name : String) : Except Error Provider :=
  match r.ciphers.find? name with
  | some p => .ok p
  | none => .error (.typeNotFound name)

def hash (r : Registry) (name : String) : Except Error HashInfo :=
  match r.hashes.find? name with
  | some h => .ok h
  | none => .error (.typeNotFound name)

/-! ## Checksums -/

/-- The checksum of the signed bytes of a message: as many bytes as the hash declares, the
authentication code first and zeros after it. -/
def makeChecksum (r : Registry) (name : String) (key : Key) (m : Message) :
    Except Fault (List UInt8) :=
  match r.hash name with
  | .error e => .error (.error e)
  | .ok info =>
    if Size.largestAllocation < info.size then .error (.error .outOfMemory)
    else
      match Hmac.authenticate info key m (List.replicate info.size 0) with
      | ⟨.error f, _⟩ => .error f
      | ⟨.ok _, sum⟩ => .ok sum

/-- Whether two byte strings of one length differ nowhere. All bytes are compared, also after a
difference has been found. -/
def sameBytes (xs ys : List UInt8) : Bool :=
  xs.length == ys.length && (List.zipWith (· ^^^ ·) xs ys).foldl (· ||| ·) 0 == 0

/-- Whether `expected` is the checksum of a message. -/
def verifyChecksum (r : Registry) (name : String) (key : Key) (m : Message)
    (expected : List UInt8) : Except Fault Bool :=
  match r.makeChecksum name key m with
  | .error f => .error f
  | .ok sum => .ok (sameBytes sum expected)

end Registry
end Kerberos
