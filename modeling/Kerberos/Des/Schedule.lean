import Kerberos.Des.Permutation

/-!
# The key schedule

The 56 chosen bits of a key form two halves. Each round rotates both halves to the left and takes
48 of their bits as its key; the rotations of the sixteen rounds add up to a full turn.
-/

namespace Kerberos
namespace Des

/-- By how many places the halves are rotated in each round, counted from the start. -/
def rotations : List Nat :=
  [1, 2, 4, 6, 8, 10, 12, 14, 15, 17, 19, 21, 23, 25, 27, 28]

/-- The key of a round whose halves are rotated by `r` places. -/
def roundKey (chosen : BitVec 56) (r : Nat) : BitVec 48 :=
  let left : BitVec 28 := chosen.extractLsb' 28 28
  let right : BitVec 28 := chosen.extractLsb' 0 28
  permute roundKeyChoice (left.rotateLeft r ++ right.rotateLeft r)

/-- The sixteen round keys of a key, in the order of encryption. -/
def schedule (key : BitVec 64) : List (BitVec 48) :=
  rotations.map (roundKey (permute keyChoice key))

end Des
end Kerberos
