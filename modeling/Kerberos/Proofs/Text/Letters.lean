/-!
# The case of letters

Only letters of ASCII have two cases. Texts are compared by their characters in lower case, which
compares the letters in both cases: `sameLetter_iff`.
-/

namespace Kerberos
namespace Text

theorem val_toLower {c : Char} (h : c.val ≥ 'A'.val ∧ c.val ≤ 'Z'.val) :
    c.toLower.val = c.val + ('a'.val - 'A'.val) := by
  delta Char.toLower
  rw [dif_pos h]

theorem val_toUpper {c : Char} (h : 'a'.val ≤ c.val ∧ c.val ≤ 'z'.val) :
    c.toUpper.val = c.val + ('A'.val - 'a'.val) := by
  delta Char.toUpper
  rw [dif_pos h]

/-- Only an upper-case letter of ASCII is changed, and the way back gives it again. -/
theorem eq_or_eq_toUpper_of_toLower_eq {c x : Char} (h : c.toLower = x) :
    c = x ∨ c = x.toUpper := by
  subst h
  by_cases hupper : c.val ≥ 'A'.val ∧ c.val ≤ 'Z'.val
  · right
    have hlower : 'a'.val ≤ c.toLower.val ∧ c.toLower.val ≤ 'z'.val := by
      have hlow : 'A'.val.toNat ≤ c.val.toNat := UInt32.le_iff_toNat_le.1 hupper.1
      have hhigh : c.val.toNat ≤ 'Z'.val.toNat := UInt32.le_iff_toNat_le.1 hupper.2
      have hsum : c.toLower.val.toNat = c.val.toNat + 32 := by
        rw [val_toLower hupper, UInt32.toNat_add, Nat.mod_eq_of_lt]
        · rfl
        · exact Nat.lt_of_le_of_lt (Nat.add_le_add_right hhigh _) (by decide)
      rw [UInt32.le_iff_toNat_le, UInt32.le_iff_toNat_le, hsum]
      exact ⟨Nat.add_le_add_right hlow 32, Nat.add_le_add_right hhigh 32⟩
    apply Char.ext
    calc
      c.val = c.val + ('a'.val - 'A'.val + ('A'.val - 'a'.val)) := (UInt32.add_zero c.val).symm
      _ = c.toLower.toUpper.val := by
            rw [val_toUpper hlower, val_toLower hupper, UInt32.add_assoc]
  · left
    have hsame : c.toLower = c := dif_neg hupper
    exact hsame.symm

/-- A letter and its upper-case form have the same lower-case form. -/
theorem toLower_toUpper (c : Char) : c.toUpper.toLower = c.toLower := by
  by_cases hlower : 'a'.val ≤ c.val ∧ c.val ≤ 'z'.val
  · have hlow : 97 ≤ c.val.toNat := UInt32.le_iff_toNat_le.1 hlower.1
    have hhigh : c.val.toNat ≤ 122 := UInt32.le_iff_toNat_le.1 hlower.2
    have hval : c.toUpper.val.toNat = c.val.toNat - 32 := by
      have hdistance : ('A'.val - 'a'.val).toNat = 4294967264 := by decide
      rw [val_toUpper hlower, UInt32.toNat_add, hdistance]
      omega
    have hupper : c.toUpper.val ≥ 'A'.val ∧ c.toUpper.val ≤ 'Z'.val := by
      have hA : 'A'.val.toNat = 65 := by decide
      have hZ : 'Z'.val.toNat = 90 := by decide
      rw [ge_iff_le, UInt32.le_iff_toNat_le, UInt32.le_iff_toNat_le, hval, hA, hZ]
      omega
    have hsame : c.toLower = c := by
      apply dif_neg
      rintro ⟨-, hZ⟩
      have hle : c.val.toNat ≤ 90 := UInt32.le_iff_toNat_le.1 hZ
      omega
    rw [hsame]
    apply Char.ext
    rw [val_toLower hupper, val_toUpper hlower, UInt32.add_assoc]
    exact UInt32.add_zero c.val
  · have hsame : c.toUpper = c := dif_neg hlower
    rw [hsame]

/-- Whether two characters are the same, or the two cases of a letter of ASCII. -/
def SameLetter (c d : Char) : Prop :=
  c = d ∨ c.toUpper = d ∨ c = d.toUpper

theorem sameLetter_iff {c d : Char} : SameLetter c d ↔ c.toLower = d.toLower := by
  constructor
  · rintro (rfl | rfl | rfl)
    · rfl
    · exact (toLower_toUpper c).symm
    · exact toLower_toUpper d
  · intro h
    rcases eq_or_eq_toUpper_of_toLower_eq h with hc | hc
    · rcases eq_or_eq_toUpper_of_toLower_eq (rfl : d.toLower = d.toLower) with hd | hd
      · exact .inl (hc.trans hd.symm)
      · rw [← hc] at hd
        exact .inr (.inl hd.symm)
    · rcases eq_or_eq_toUpper_of_toLower_eq (rfl : d.toLower = d.toLower) with hd | hd
      · rw [← hd] at hc
        exact .inr (.inr hc)
      · exact .inl (hc.trans hd.symm)

end Text
end Kerberos
