import Kerberos.Text.Integer
import Mathlib.Data.Nat.Digits.Defs

/-!
# Which texts are integer literals

`Literal` says which texts stand for which integers, with the value of the digits taken place by
place. The reader without bounds reads exactly these texts: `signed?_eq_some_iff`. The reader of
words reads those of them whose integer is a word: `word?_eq_some_iff`. It looks at one digit after
the other, and yet it refuses a literal exactly if the whole number is out of range, since further
digits never lead back into the range.
-/

namespace Kerberos
namespace Text
namespace Integer

variable {cs : List Char}

/-! ## Digits -/

/-- Whether digits, of which there has to be one, have a value. The last one counts once, the one
in front of it ten times, and so on. -/
structure Numeral (digits : List Char) (n : Nat) : Prop where
  ne_nil : digits ≠ []
  isDigit : ∀ c ∈ digits, c.isDigit = true
  eq_ofDigits : n = Nat.ofDigits 10 (digits.reverse.map digitValue)

theorem value_eq_ofDigits (digits : List Char) :
    value digits = Nat.ofDigits 10 (digits.reverse.map digitValue) := by
  rw [Nat.ofDigits_eq_foldr, List.foldr_map, List.foldr_reverse, value]
  congr
  funext n c
  exact Nat.add_comm _ _

theorem digits?_eq_some_iff {n : Nat} : digits? cs = some n ↔ Numeral cs n := by
  rw [digits?]
  by_cases hdigits : (!cs.isEmpty && cs.all Char.isDigit) = true
  · rw [if_pos hdigits]
    simp only [Bool.and_eq_true, Bool.not_eq_true', List.isEmpty_eq_false_iff,
      List.all_eq_true] at hdigits
    constructor
    · rintro ⟨⟩
      exact ⟨hdigits.1, hdigits.2, value_eq_ofDigits cs⟩
    · intro h
      rw [value_eq_ofDigits, h.eq_ofDigits]
  · rw [if_neg hdigits]
    constructor
    · intro h
      cases h
    · intro h
      refine absurd ?_ hdigits
      simpa using ⟨h.ne_nil, h.isDigit⟩

/-- A numeral does not start with a sign. -/
theorem Numeral.not_cons {n : Nat} {c : Char} (hc : c.isDigit = false) :
    ¬Numeral (c :: cs) n := by
  intro h
  have hdigit := h.isDigit c List.mem_cons_self
  rw [hc] at hdigit
  cases hdigit

/-! ## Signs -/

/-- Whether a text does not start with a sign. -/
structure Unsigned (cs : List Char) : Prop where
  ne_minus : cs.head? ≠ some '-'
  ne_plus : cs.head? ≠ some '+'

theorem sign_cases (cs : List Char) :
    (∃ rest, cs = '-' :: rest) ∨ (∃ rest, cs = '+' :: rest) ∨ Unsigned cs := by
  cases cs with
  | nil => exact .inr (.inr ⟨by simp, by simp⟩)
  | cons c rest =>
    by_cases hminus : c = '-'
    · exact .inl ⟨rest, by rw [hminus]⟩
    · by_cases hplus : c = '+'
      · exact .inr (.inl ⟨rest, by rw [hplus]⟩)
      · exact .inr (.inr ⟨by simpa using hminus, by simpa using hplus⟩)

theorem signed?_hyphen (cs : List Char) :
    signed? ('-' :: cs) = (digits? cs).map fun (n : Nat) => -(n : Int) := by
  rw [signed?]
  cases digits? cs with
  | none => rfl
  | some n => rfl

theorem signed?_plus (cs : List Char) :
    signed? ('+' :: cs) = (digits? cs).map fun (n : Nat) => (n : Int) := by
  have hread : signed? ('+' :: cs) = (digits? cs).bind fun (n : Nat) => some (n : Int) := by
    simp [signed?, unsigned?]
  rw [hread, Option.map_eq_bind]
  rfl

theorem signed?_of_unsigned (h : Unsigned cs) :
    signed? cs = (digits? cs).map fun (n : Nat) => (n : Int) := by
  cases cs with
  | nil => rfl
  | cons c rest =>
    have hminus : c ≠ '-' := by simpa using h.ne_minus
    have hplus : c ≠ '+' := by simpa using h.ne_plus
    have hread : signed? (c :: rest) =
        (digits? (c :: rest)).bind fun (n : Nat) => some (n : Int) := by
      simp [signed?, unsigned?, hminus, hplus]
    rw [hread, Option.map_eq_bind]
    rfl

theorem word?_hyphen (cs : List Char) : word? ('-' :: cs) = wordDigits? .minus cs :=
  rfl

theorem word?_plus (cs : List Char) : word? ('+' :: cs) = wordDigits? .plus cs :=
  rfl

theorem word?_of_unsigned (h : Unsigned cs) : word? cs = wordDigits? .plus cs := by
  cases cs with
  | nil => rfl
  | cons c rest =>
    have hminus : c ≠ '-' := by simpa using h.ne_minus
    have hplus : c ≠ '+' := by simpa using h.ne_plus
    simp [word?, hminus, hplus]

/-! ## Literals -/

/-- Whether a text is digits for an integer, behind at most one sign. -/
inductive Literal : List Char → Int → Prop
  | bare {digits : List Char} {n : Nat} (h : Numeral digits n) : Literal digits n
  | plus {digits : List Char} {n : Nat} (h : Numeral digits n) : Literal ('+' :: digits) n
  | minus {digits : List Char} {n : Nat} (h : Numeral digits n) : Literal ('-' :: digits) (-n)

theorem Literal.of_signed? {n : Int} (h : signed? cs = some n) : Literal cs n := by
  rcases sign_cases cs with ⟨rest, rfl⟩ | ⟨rest, rfl⟩ | hunsigned
  · rw [signed?_hyphen] at h
    rcases Option.map_eq_some_iff.1 h with ⟨m, hm, rfl⟩
    exact .minus (digits?_eq_some_iff.1 hm)
  · rw [signed?_plus] at h
    rcases Option.map_eq_some_iff.1 h with ⟨m, hm, rfl⟩
    exact .plus (digits?_eq_some_iff.1 hm)
  · rw [signed?_of_unsigned hunsigned] at h
    rcases Option.map_eq_some_iff.1 h with ⟨m, hm, rfl⟩
    exact .bare (digits?_eq_some_iff.1 hm)

theorem Literal.signed?_eq {n : Int} (h : Literal cs n) : signed? cs = some n := by
  cases h with
  | minus hdigits => rw [signed?_hyphen, digits?_eq_some_iff.2 hdigits, Option.map_some]
  | plus hdigits => rw [signed?_plus, digits?_eq_some_iff.2 hdigits, Option.map_some]
  | bare hdigits =>
    rcases sign_cases cs with ⟨rest, rfl⟩ | ⟨rest, rfl⟩ | hunsigned
    · exact absurd hdigits (Numeral.not_cons (by decide))
    · exact absurd hdigits (Numeral.not_cons (by decide))
    · rw [signed?_of_unsigned hunsigned, digits?_eq_some_iff.2 hdigits, Option.map_some]

theorem Literal.isDigit_or_sign {n : Int} (h : Literal cs n) :
    ∀ c ∈ cs, c.isDigit = true ∨ c = '+' ∨ c = '-' := by
  intro c hc
  cases h with
  | bare hdigits => exact .inl (hdigits.isDigit c hc)
  | plus hdigits =>
    rcases List.mem_cons.1 hc with rfl | hc
    · exact .inr (.inl rfl)
    · exact .inl (hdigits.isDigit c hc)
  | minus hdigits =>
    rcases List.mem_cons.1 hc with rfl | hc
    · exact .inr (.inr rfl)
    · exact .inl (hdigits.isDigit c hc)

/-- The reader without bounds reads the literals, each as its integer. -/
theorem signed?_eq_some_iff {n : Int} : signed? cs = some n ↔ Literal cs n :=
  ⟨Literal.of_signed?, Literal.signed?_eq⟩

/-! ## Words -/

theorem fit?_eq_some_iff {n m : Int} :
    fit? n = some m ↔ m = n ∧ -2 ^ 31 ≤ n ∧ n < 2 ^ 31 := by
  rw [fit?]
  by_cases hrange : -0x80000000 ≤ n ∧ n < 0x80000000
  · rw [if_pos hrange, Option.some.injEq, eq_comm]
    exact (and_iff_left hrange).symm
  · rw [if_neg hrange]
    constructor
    · intro h
      cases h
    · rintro ⟨-, h⟩
      exact absurd h hrange

/-- The number in between is nearer to zero than the one with the digit, so it never leaves the
range on its own. -/
theorem appendDigit?_apply (s : Sign) (n : Nat) (c : Char) :
    appendDigit? s (s.apply n) c = fit? (s.apply (10 * n + digitValue c : Nat)) := by
  by_cases hbetween : -0x80000000 ≤ 10 * s.apply n ∧ 10 * s.apply n < 0x80000000
  · have hshifted : fit? (10 * s.apply n) = some (10 * s.apply n) := if_pos hbetween
    have hsum : 10 * s.apply n + s.apply (digitValue c) =
        s.apply (10 * n + digitValue c : Nat) := by
      cases s with
      | plus => simp [Sign.apply]
      | minus =>
        simp only [Sign.apply]
        omega
    rw [appendDigit?, hshifted, ← hsum]
    rfl
  · have hshifted : fit? (10 * s.apply n) = none := if_neg hbetween
    have hout : fit? (s.apply (10 * n + digitValue c : Nat)) = none := by
      apply if_neg
      intro hrange
      apply hbetween
      cases s with
      | plus =>
        simp only [Sign.apply] at hrange ⊢
        omega
      | minus =>
        simp only [Sign.apply] at hrange ⊢
        omega
    rw [appendDigit?, hshifted, hout]
    rfl

/-- What is out of range stays so when it grows. -/
theorem fit?_apply_eq_none {s : Sign} {n m : Nat} (hle : n ≤ m) (h : fit? (s.apply n) = none) :
    fit? (s.apply m) = none := by
  rw [Option.eq_none_iff_forall_ne_some] at h ⊢
  intro k hk
  apply h (s.apply n)
  rw [fit?_eq_some_iff] at hk ⊢
  refine ⟨rfl, ?_⟩
  cases s with
  | plus =>
    simp only [Sign.apply] at hk ⊢
    omega
  | minus =>
    simp only [Sign.apply] at hk ⊢
    omega

theorem le_foldl_digits (cs : List Char) (n : Nat) :
    n ≤ cs.foldl (fun n c => 10 * n + digitValue c) n := by
  induction cs generalizing n with
  | nil => exact Nat.le_refl n
  | cons c rest ih =>
    have hle : n ≤ 10 * n + digitValue c := by omega
    exact Nat.le_trans hle (ih _)

/-- Reading digits behind a word gives what they make of it without bounds, if this is a word. -/
theorem foldlM_appendDigit? (s : Sign) (cs : List Char) (n : Nat)
    (h : fit? (s.apply n) = some (s.apply n)) :
    cs.foldlM (appendDigit? s) (s.apply n) =
      fit? (s.apply (cs.foldl (fun n c => 10 * n + digitValue c) n : Nat)) := by
  -- on the digits, for every word that those in front of them can make
  induction cs generalizing n with
  | nil => exact h.symm
  | cons c rest ih =>
    rw [List.foldlM_cons, List.foldl_cons, appendDigit?_apply]
    cases hnext : fit? (s.apply (10 * n + digitValue c : Nat)) with
    | none => exact (fit?_apply_eq_none (le_foldl_digits rest _) hnext).symm
    | some k =>
      rcases fit?_eq_some_iff.1 hnext with ⟨rfl, -⟩
      exact ih _ hnext

theorem wordDigits?_eq (s : Sign) (cs : List Char) :
    wordDigits? s cs = ((digits? cs).map fun (n : Nat) => s.apply n).bind fit? := by
  have hzero : s.apply (0 : Nat) = 0 := by cases s <;> rfl
  have hfold := foldlM_appendDigit? s cs 0 (by cases s <;> rfl)
  rw [hzero] at hfold
  rw [wordDigits?, digits?]
  by_cases hdigits : (!cs.isEmpty && cs.all Char.isDigit) = true
  · rw [if_pos hdigits, if_pos hdigits, hfold]
    rfl
  · rw [if_neg hdigits, if_neg hdigits]
    rfl

/-- The reader of words checks the range at every digit, which is as good as once at the end. -/
theorem word?_eq (cs : List Char) : word? cs = (signed? cs).bind fit? := by
  rcases sign_cases cs with ⟨rest, rfl⟩ | ⟨rest, rfl⟩ | hunsigned
  · rw [word?_hyphen, wordDigits?_eq, signed?_hyphen]
    simp only [Sign.apply]
  · rw [word?_plus, wordDigits?_eq, signed?_plus]
    simp only [Sign.apply]
  · rw [word?_of_unsigned hunsigned, wordDigits?_eq, signed?_of_unsigned hunsigned]
    simp only [Sign.apply]

theorem word?_eq_some_iff {n : Int} :
    word? cs = some n ↔ Literal cs n ∧ -2 ^ 31 ≤ n ∧ n < 2 ^ 31 := by
  rw [word?_eq, Option.bind_eq_some_iff]
  constructor
  · rintro ⟨m, hm, hfit⟩
    rcases fit?_eq_some_iff.1 hfit with ⟨rfl, hrange⟩
    exact ⟨signed?_eq_some_iff.1 hm, hrange⟩
  · rintro ⟨hliteral, hrange⟩
    exact ⟨n, signed?_eq_some_iff.2 hliteral, fit?_eq_some_iff.2 ⟨rfl, hrange⟩⟩

end Integer
end Text
end Kerberos
