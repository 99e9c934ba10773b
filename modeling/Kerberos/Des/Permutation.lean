/-!
# Bit permutations

The tables of the block cipher number bits from the left, starting with 1. Applying a table picks
for each bit of the result the bit of the argument that the table names; a table may leave bits
out or name them twice.
-/

namespace Kerberos
namespace Des

/-- The word whose bits, from the left, are those bits of `x` that the table names. -/
def permute {n m : Nat} (table : Vector Nat m) (x : BitVec n) : BitVec m :=
  (BitVec.ofBoolListBE (table.toList.map fun p => x.getMsbD (p - 1))).cast (by simp)

/-- Each bit of the result is the bit that the table names. -/
theorem getMsbD_permute {n m : Nat} (table : Vector Nat m) (x : BitVec n) (i : Nat) (h : i < m) :
    (permute table x).getMsbD i = x.getMsbD (table[i] - 1) := by
  have hl : i < table.toList.length := by simpa using h
  simp [permute, List.getD_eq_getElem?_getD, h]

/-! ## Tables of the block cipher -/

/-- The permutation before the first round. -/
def initial : Vector Nat 64 :=
  #v[58, 50, 42, 34, 26, 18, 10, 2, 60, 52, 44, 36, 28, 20, 12, 4,
     62, 54, 46, 38, 30, 22, 14, 6, 64, 56, 48, 40, 32, 24, 16, 8,
     57, 49, 41, 33, 25, 17, 9, 1, 59, 51, 43, 35, 27, 19, 11, 3,
     61, 53, 45, 37, 29, 21, 13, 5, 63, 55, 47, 39, 31, 23, 15, 7]

/-- The permutation after the last round, the inverse of `initial`. -/
def final : Vector Nat 64 :=
  #v[40, 8, 48, 16, 56, 24, 64, 32, 39, 7, 47, 15, 55, 23, 63, 31,
     38, 6, 46, 14, 54, 22, 62, 30, 37, 5, 45, 13, 53, 21, 61, 29,
     36, 4, 44, 12, 52, 20, 60, 28, 35, 3, 43, 11, 51, 19, 59, 27,
     34, 2, 42, 10, 50, 18, 58, 26, 33, 1, 41, 9, 49, 17, 57, 25]

/-- The expansion of a half block to the width of a round key. -/
def expansion : Vector Nat 48 :=
  #v[32, 1, 2, 3, 4, 5, 4, 5, 6, 7, 8, 9, 8, 9, 10, 11, 12, 13, 12, 13, 14, 15, 16, 17,
     16, 17, 18, 19, 20, 21, 20, 21, 22, 23, 24, 25, 24, 25, 26, 27, 28, 29, 28, 29, 30, 31, 32, 1]

/-- The permutation of the substituted half block. -/
def diffusion : Vector Nat 32 :=
  #v[16, 7, 20, 21, 29, 12, 28, 17, 1, 15, 23, 26, 5, 18, 31, 10,
     2, 8, 24, 14, 32, 27, 3, 9, 19, 13, 30, 6, 22, 11, 4, 25]

/-- The bits of a key that take part in the key schedule; the last bit of each byte does not. -/
def keyChoice : Vector Nat 56 :=
  #v[57, 49, 41, 33, 25, 17, 9, 1, 58, 50, 42, 34, 26, 18,
     10, 2, 59, 51, 43, 35, 27, 19, 11, 3, 60, 52, 44, 36,
     63, 55, 47, 39, 31, 23, 15, 7, 62, 54, 46, 38, 30, 22,
     14, 6, 61, 53, 45, 37, 29, 21, 13, 5, 28, 20, 12, 4]

/-- The bits of the rotated key halves that make a round key. -/
def roundKeyChoice : Vector Nat 48 :=
  #v[14, 17, 11, 24, 1, 5, 3, 28, 15, 6, 21, 10, 23, 19, 12, 4, 26, 8, 16, 7, 27, 20, 13, 2,
     41, 52, 31, 37, 47, 55, 30, 40, 51, 45, 33, 48, 44, 49, 39, 56, 34, 53, 46, 42, 50, 36, 29, 32]

end Des
end Kerberos
