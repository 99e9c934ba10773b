import Kerberos.Cipher.ArcfourStream
import Kerberos.Cipher.DesCbc

/-!
# Cipher providers

One interface over the ciphers of the library. The two Camellia providers announce their sizes,
so that tables and length calculations work, and refuse every operation.
-/

namespace Kerberos

/-- The ciphers of the library. -/
inductive Provider
  | des
  | arcfour
  | camellia128
  | camellia256
  deriving DecidableEq

namespace Provider

def all : List Provider :=
  [des, arcfour, camellia128, camellia256]

def camelliaBlockSize : Nat := 16

def info : Provider → CipherInfo
  | des => DesCbc.info
  | arcfour => ArcfourStream.info
  | camellia128 => ⟨"camellia128", camelliaBlockSize, 16, 16⟩
  | camellia256 => ⟨"camellia256", camelliaBlockSize, 32, 32⟩

def transform (p : Provider) (d : Direction) (key : Key) (state : Option CipherState)
    (m : Message) : Transformed :=
  match p with
  | des => DesCbc.transform d key state m
  | arcfour => ArcfourStream.transform key state m
  | camellia128 => .refused .internal m state
  | camellia256 => .refused .internal m state

def encrypt (p : Provider) (key : Key) (state : Option CipherState) (m : Message) : Transformed :=
  p.transform .encrypt key state m

def decrypt (p : Provider) (key : Key) (state : Option CipherState) (m : Message) : Transformed :=
  p.transform .decrypt key state m

/-- Writes an authentication code made by chaining into `output`. -/
def cbcMac (p : Provider) (key : Key) (m : Message) (iv : Option (List UInt8))
    (output : List UInt8) : Outcome Error (List UInt8) Unit :=
  match p with
  | des => DesCbc.mac key m iv output
  | arcfour => ⟨.error .internal, output⟩
  | camellia128 => ⟨.error .internal, output⟩
  | camellia256 => ⟨.error .internal, output⟩

/-- The state of a new conversation. It depends neither on the key nor on its usage. -/
def initState : Provider → Except Error CipherState
  | des => .ok DesCbc.freshState
  | arcfour => .ok ArcfourStream.freshState
  | camellia128 => .error .internal
  | camellia256 => .error .internal

end Provider

namespace Enctype

def provider : Enctype → Provider
  | desCbcCrc => .des
  | desCbcMd4 => .des
  | desCbcMd5 => .des
  | arcfourHmac => .arcfour
  | camellia128CtsCmac => .camellia128
  | camellia256CtsCmac => .camellia256

end Enctype
end Kerberos
