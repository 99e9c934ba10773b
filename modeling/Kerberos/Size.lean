/-!
# Sizes

Sizes are machine words: natural numbers below `Size.limit`. Arithmetic on sizes that would
leave this range has no result. An allocation can hold at most `Size.largestAllocation` bytes.
Main statements: `roundUp unit n` is the least multiple of `unit` that is not below `n`, and
`roundUp?` computes it on sizes.
-/

namespace Kerberos
namespace Size

/-- One more than the largest size: the 64th power of two. -/
def limit : Nat := 0x10000000000000000

/-- The number of bytes of the largest block of memory that can be asked for. -/
def largestAllocation : Nat := 0x7FFFFFFFFFFFFFFF

def check? (n : Nat) : Option Nat :=
  if n < limit then some n else none

def add? (a b : Nat) : Option Nat :=
  check? (a + b)

/-- The least multiple of a positive `unit` that is at least `n`. -/
def roundUp (unit n : Nat) : Nat :=
  (n + (unit - 1)) / unit * unit

/-- Rounds a size up to whole units: what is missing to a whole one is added. Nothing can be
rounded to units of zero. -/
def roundUp? (unit n : Nat) : Option Nat :=
  if unit = 0 then none
  else if n % unit = 0 then some n
  else add? n (unit - n % unit)

/-! ## What rounding gives -/

theorem dvd_roundUp (unit n : Nat) : unit ∣ roundUp unit n :=
  Nat.dvd_mul_left _ _

theorem le_roundUp {unit : Nat} (h : 0 < unit) (n : Nat) : n ≤ roundUp unit n := by
  have hdiv := Nat.div_add_mod (n + (unit - 1)) unit
  have hmod := Nat.mod_lt (n + (unit - 1)) h
  rw [Nat.mul_comm] at hdiv
  simp only [roundUp]
  omega

/-- No multiple of the unit lies between the number rounded and the result. -/
theorem roundUp_le {unit n m : Nat} (h : 0 < unit) (hm : unit ∣ m) (hn : n ≤ m) :
    roundUp unit n ≤ m := by
  obtain ⟨k, rfl⟩ := hm
  have hk : (n + (unit - 1)) / unit ≤ k := by
    have hlt : n + (unit - 1) < (k + 1) * unit := by
      rw [Nat.add_mul, Nat.one_mul, Nat.mul_comm k]
      omega
    exact Nat.le_of_lt_succ ((Nat.div_lt_iff_lt_mul h).mpr hlt)
  calc
    roundUp unit n ≤ k * unit := Nat.mul_le_mul_right unit hk
    _ = unit * k := Nat.mul_comm k unit

theorem roundUp_mono {unit n m : Nat} (h : 0 < unit) (hle : n ≤ m) :
    roundUp unit n ≤ roundUp unit m :=
  roundUp_le h (dvd_roundUp unit m) (Nat.le_trans hle (le_roundUp h m))

theorem roundUp_of_dvd {unit n : Nat} (h : 0 < unit) (hdvd : unit ∣ n) : roundUp unit n = n :=
  Nat.le_antisymm (roundUp_le h hdvd (Nat.le_refl n)) (le_roundUp h n)

/-- A size that is no whole multiple is filled up to the next one. -/
theorem roundUp_eq_add {unit n : Nat} (h : 0 < unit) (hrest : n % unit ≠ 0) :
    roundUp unit n = n + (unit - n % unit) := by
  have hmod := Nat.mod_lt n h
  have hdvd : unit ∣ n + (unit - n % unit) := by
    refine ⟨n / unit + 1, ?_⟩
    have hdiv := Nat.div_add_mod n unit
    rw [Nat.mul_succ]
    omega
  apply Nat.le_antisymm
  · exact roundUp_le h hdvd (Nat.le_add_right n _)
  · -- the two multiples lie less than a unit apart
    have hless : n + (unit - n % unit) < roundUp unit n + unit := by
      have hle := le_roundUp h n
      have hpos := Nat.pos_of_ne_zero hrest
      omega
    rcases hdvd with ⟨k, hk⟩
    rcases dvd_roundUp unit n with ⟨j, hj⟩
    rw [hk, hj, ← Nat.mul_succ] at hless
    rw [hk, hj]
    exact Nat.mul_le_mul_left unit (Nat.le_of_lt_succ (Nat.lt_of_mul_lt_mul_left hless))

/-- On sizes, rounding has a result exactly if it is a size. -/
theorem roundUp?_eq {unit n : Nat} (h : 0 < unit) (hn : n < limit) :
    roundUp? unit n = check? (roundUp unit n) := by
  rw [roundUp?, if_neg (Nat.ne_of_gt h)]
  by_cases hrest : n % unit = 0
  · rw [if_pos hrest, roundUp_of_dvd h (Nat.dvd_of_mod_eq_zero hrest), check?, if_pos hn]
  · rw [if_neg hrest, add?, roundUp_eq_add h hrest]

end Size
end Kerberos
