import Kerberos.Digest.Sha1
import Kerberos.Error
import Kerberos.Hmac

/-!
# Keys from passwords

The derived bytes are a sequence of blocks. Each block is the exclusive or of as many iterates as
the count says: the first iterate is the code of the salt and the number of the block, each
further one the code of the one before it, always under the password.
-/

namespace Kerberos
namespace Pbkdf2

open Digest (Sha1.construction Sha1.State)

def blockSize : Nat := 20

def mix (xs ys : List UInt8) : List UInt8 :=
  List.zipWith (· ^^^ ·) xs ys

/-- Mixes `n` further iterates after `u` into `sum`. -/
def iterate (prf : List UInt8 → List UInt8) : Nat → (u sum : List UInt8) → List UInt8
  | 0, _, sum => sum
  | n + 1, u, sum =>
    let u' := prf u
    iterate prf n u' (mix sum u')

/-- The block with a number, for a positive count. -/
def block (prf : List UInt8 → List UInt8) (salt : List UInt8) (count index : Nat) : List UInt8 :=
  let first := prf (salt ++ Digest.bytesBE (UInt32.ofNat index))
  iterate prf (count - 1) first first

def derive (prf : List UInt8 → List UInt8) (salt : List UInt8) (count length : Nat) : List UInt8 :=
  ((List.range ((length + (blockSize - 1)) / blockSize)).flatMap fun i =>
    block prf salt count (i + 1)).take length

/-- The code under a password that the iterates are made with. The two digests that take in the
password are prepared once. -/
def prepared (mac : Hmac.Mac Sha1.State) (message : List UInt8) : List UInt8 :=
  (mac.update Sha1.construction message).finish Sha1.construction

/-- Fills `output` with bytes derived from a password and a salt. A count of zero is refused. -/
def fill (output : List UInt8) (count : Nat) (password salt : List UInt8) :
    Outcome Error (List UInt8) Unit :=
  if count = 0 then ⟨.error .internal, output⟩
  else
    let mac := Hmac.Mac.start Sha1.construction password
    ⟨.ok (), derive (prepared mac) salt count output.length⟩

end Pbkdf2
end Kerberos
