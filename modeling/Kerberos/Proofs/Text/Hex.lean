import Kerberos.Proofs.Text.Letters
import Kerberos.Text.Blank
import Kerberos.Text.Hex

/-!
# Texts that spell bytes

A text spells bytes if it is made of their digits, in any case, and of blanks around them. Such a
text is read as these bytes: `decode_trim_of_spells`. What is written for bytes spells them.
-/

namespace Kerberos
namespace Text

/-! ## Blanks -/

/-- Blanks around a text without any are taken away, and nothing else. -/
theorem trim_append {before text after : List Char} (hbefore : ∀ c ∈ before, isBlank c = true)
    (htext : ∀ c ∈ text, isBlank c = false) (hafter : ∀ c ∈ after, isBlank c = true) :
    trim (before ++ text ++ after) = text := by
  have hkeep : ∀ {part : List Char}, (∀ c ∈ part, isBlank c = false) →
      part.dropWhile isBlank = part := by
    intro part hpart
    cases part with
    | nil => rfl
    | cons c rest =>
      apply List.dropWhile_cons_of_neg
      simp [hpart c List.mem_cons_self]
  have hfront : (before ++ text ++ after).dropWhile isBlank = text ++ after ∨
      (text = [] ∧ (before ++ text ++ after).dropWhile isBlank = []) := by
    rw [List.append_assoc, List.dropWhile_append_of_pos hbefore]
    cases text with
    | nil =>
      -- nothing stops the first pass, and it takes the blanks behind the text as well
      right
      refine ⟨rfl, ?_⟩
      have hall : (after ++ []).dropWhile isBlank = [] := List.dropWhile_append_of_pos hafter
      rwa [List.append_nil] at hall
    | cons c rest =>
      left
      apply List.dropWhile_cons_of_neg
      simp [htext c List.mem_cons_self]
  rcases hfront with hfront | ⟨rfl, hfront⟩
  · rw [trim, hfront, List.reverse_append, List.dropWhile_append_of_pos]
    · rw [hkeep, List.reverse_reverse]
      intro c hc
      exact htext c (List.mem_reverse.1 hc)
    · intro c hc
      exact hafter c (List.mem_reverse.1 hc)
  · rw [trim, hfront]
    rfl

namespace Hex

/-! ## Digits -/

/-- Whether a character is the digit with a value, in either case. -/
def IsDigit (c : Char) (value : Nat) : Prop :=
  value < 16 ∧ c.toLower = Nat.digitChar value

namespace IsDigit

variable {c : Char} {value : Nat}

theorem cases (h : IsDigit c value) :
    c = Nat.digitChar value ∨ c = (Nat.digitChar value).toUpper :=
  eq_or_eq_toUpper_of_toLower_eq h.2

/-- What holds of the sixteen digits in both cases holds of every digit. -/
theorem of_all {P : Nat → Char → Prop}
    (hall : ∀ n < 16, P n (Nat.digitChar n) ∧ P n (Nat.digitChar n).toUpper)
    (h : IsDigit c value) : P value c := by
  rcases h.cases with rfl | rfl
  · exact (hall value h.1).1
  · exact (hall value h.1).2

theorem isBlank_eq (h : IsDigit c value) : isBlank c = false :=
  h.of_all (P := fun _ c => isBlank c = false) (by decide)

theorem ne_hyphen (h : IsDigit c value) : c ≠ '-' :=
  h.of_all (P := fun _ c => c ≠ '-') (by decide)

/-- A digit is a single byte as UTF-8, and its value is read from it. -/
theorem utf8EncodeChar_eq (h : IsDigit c value) :
    ∃ b, String.utf8EncodeChar c = [b] ∧ digit? b = some (UInt8.ofNat value) := by
  refine ⟨UInt8.ofNat c.toNat, ?_⟩
  exact h.of_all (P := fun n c => String.utf8EncodeChar c = [UInt8.ofNat c.toNat] ∧
    digit? (UInt8.ofNat c.toNat) = some (UInt8.ofNat n)) (by decide)

end IsDigit

/-- The halves of a byte have digits. -/
theorem halves_lt (b : UInt8) : b.toNat / 16 < 16 ∧ b.toNat % 16 < 16 :=
  ⟨Nat.div_lt_of_lt_mul b.toNat_lt, Nat.mod_lt _ (by decide)⟩

theorem eq_of_halves (b : UInt8) :
    16 * UInt8.ofNat (b.toNat / 16) + UInt8.ofNat (b.toNat % 16) = b := by
  have hb : b.toNat < 256 := b.toNat_lt
  apply UInt8.toNat_inj.1
  simp only [UInt8.toNat_add, UInt8.toNat_mul, UInt8.toNat_ofNat', UInt8.toNat_ofNat]
  omega

/-- Whether characters are the digits of bytes, in any case. -/
def AreDigits (digits : List Char) (bytes : List UInt8) : Prop :=
  digits.map Char.toLower = bytes.flatMap lowerPair

instance (digits : List Char) (bytes : List UInt8) : Decidable (AreDigits digits bytes) :=
  inferInstanceAs (Decidable (digits.map Char.toLower = bytes.flatMap lowerPair))

namespace AreDigits

variable {digits : List Char} {bytes : List UInt8}

theorem nil (h : AreDigits digits []) : digits = [] :=
  List.map_eq_nil_iff.1 h

/-- The first byte has the first two digits. -/
theorem cons {b : UInt8} (h : AreDigits digits (b :: bytes)) :
    ∃ high low rest, digits = high :: low :: rest ∧ IsDigit high (b.toNat / 16) ∧
      IsDigit low (b.toNat % 16) ∧ AreDigits rest bytes := by
  have hlower : digits.map Char.toLower =
      Nat.digitChar (b.toNat / 16) :: Nat.digitChar (b.toNat % 16) :: bytes.flatMap lowerPair := h
  rcases List.map_eq_cons_iff.1 hlower with ⟨high, tail, rfl, hhigh, htail⟩
  rcases List.map_eq_cons_iff.1 htail with ⟨low, rest, rfl, hlow, hrest⟩
  exact ⟨high, low, rest, rfl, ⟨(halves_lt b).1, hhigh⟩, ⟨(halves_lt b).2, hlow⟩, hrest⟩

theorem isDigit_of_mem (h : AreDigits digits bytes) {c : Char} (hc : c ∈ digits) :
    ∃ value, IsDigit c value := by
  induction bytes generalizing digits with
  | nil =>
    rw [h.nil] at hc
    cases hc
  | cons b bytes ih =>
    rcases h.cons with ⟨high, low, rest, rfl, hhigh, hlow, hrest⟩
    rcases List.mem_cons.1 hc with rfl | htail
    · exact ⟨_, hhigh⟩
    · rcases List.mem_cons.1 htail with rfl | hmem
      · exact ⟨_, hlow⟩
      · exact ih hrest hmem

/-- Digits are as many bytes as UTF-8, and these are read in pairs. -/
theorem decodePairs_eq (h : AreDigits digits bytes) (position : Nat) :
    (digits.flatMap String.utf8EncodeChar).length % 2 = 0 ∧
      decodePairs (digits.flatMap String.utf8EncodeChar) position = .ok bytes := by
  -- on the bytes, each of which takes the next two of the digits
  induction bytes generalizing digits position with
  | nil =>
    rw [h.nil]
    exact ⟨rfl, rfl⟩
  | cons b bytes ih =>
    rcases h.cons with ⟨high, low, rest, rfl, hhigh, hlow, hrest⟩
    rcases hhigh.utf8EncodeChar_eq with ⟨highByte, hhighByte, hhighDigit⟩
    rcases hlow.utf8EncodeChar_eq with ⟨lowByte, hlowByte, hlowDigit⟩
    rcases ih hrest (position + 2) with ⟨heven, hread⟩
    have hbyte : 16 * UInt8.ofNat (b.toNat / 16) + UInt8.ofNat (b.toNat % 16) = b :=
      eq_of_halves b
    simp only [List.flatMap_cons, hhighByte, hlowByte, List.cons_append, List.nil_append]
    refine ⟨?_, ?_⟩
    · rw [List.length_cons, List.length_cons, Nat.add_assoc, Nat.add_mod_right]
      exact heven
    · rw [decodePairs, digitAt, digitAt, hhighDigit, hlowDigit, hread]
      exact congrArg (fun first => Except.ok (first :: bytes)) hbyte

/-- What is written for bytes is in lower case. -/
theorem lowerPairs (bytes : List UInt8) : AreDigits (bytes.flatMap lowerPair) bytes := by
  have hdigit : ∀ n < 16, (Nat.digitChar n).toLower = Nat.digitChar n := by decide
  have hpair (b : UInt8) : (lowerPair b).map Char.toLower = lowerPair b := by
    simp only [lowerPair, List.map_cons, List.map_nil]
    rw [hdigit _ (halves_lt b).1, hdigit _ (halves_lt b).2]
  simp only [AreDigits, List.map_flatMap, hpair]

end AreDigits

/-! ## Texts -/

/-- Whether a text is made of the digits of some bytes and blanks around them. -/
def Spells (text : String) (bytes : List UInt8) : Prop :=
  ∃ before digits after, text.toList = before ++ digits ++ after ∧
    before.all isBlank = true ∧ AreDigits digits bytes ∧ after.all isBlank = true

theorem isBlank_of_mem_encode {bytes : List UInt8} {c : Char} (hc : c ∈ (encode bytes).toList) :
    isBlank c = false := by
  rw [encode, String.toList_ofList] at hc
  rcases (AreDigits.lowerPairs bytes).isDigit_of_mem hc with ⟨value, hdigit⟩
  exact hdigit.isBlank_eq

theorem spells_encode (bytes : List UInt8) : Spells (encode bytes) bytes := by
  refine ⟨[], bytes.flatMap lowerPair, [], ?_, rfl, .lowerPairs bytes, rfl⟩
  rw [encode, String.toList_ofList, List.append_nil, List.nil_append]

/-- A text that spells bytes is read as them. -/
theorem decode_trim_of_spells {text : String} {bytes : List UInt8} (h : Spells text bytes) :
    decode (String.ofList (trim text.toList)) = .ok bytes := by
  rcases h with ⟨before, digits, after, htext, hbefore, hdigits, hafter⟩
  have hblank : ∀ c ∈ digits, isBlank c = false := by
    intro c hc
    rcases hdigits.isDigit_of_mem hc with ⟨value, hdigit⟩
    exact hdigit.isBlank_eq
  rcases hdigits.decodePairs_eq 0 with ⟨heven, hread⟩
  rw [htext, trim_append (List.all_eq_true.1 hbefore) hblank (List.all_eq_true.1 hafter)]
  simp only [decode, Utf8.encode, String.toList_ofList]
  rw [if_pos heven, hread]

theorem isBlank_or_isDigit_of_spells {text : String} {bytes : List UInt8} (h : Spells text bytes)
    {c : Char} (hc : c ∈ text.toList) : isBlank c = true ∨ ∃ value, IsDigit c value := by
  rcases h with ⟨before, digits, after, htext, hbefore, hdigits, hafter⟩
  rw [htext] at hc
  rcases List.mem_append.1 hc with hfront | hback
  · rcases List.mem_append.1 hfront with hblank | hdigit
    · exact .inl (List.all_eq_true.1 hbefore c hblank)
    · exact .inr (hdigits.isDigit_of_mem hdigit)
  · exact .inl (List.all_eq_true.1 hafter c hback)

theorem hyphen_not_mem_of_spells {text : String} {bytes : List UInt8} (h : Spells text bytes) :
    '-' ∉ text.toList := by
  intro hmem
  rcases isBlank_or_isDigit_of_spells h hmem with hblank | ⟨value, hdigit⟩
  · have hhyphen : isBlank '-' = false := by decide
    rw [hhyphen] at hblank
    cases hblank
  · exact hdigit.ne_hyphen rfl

end Hex
end Text
end Kerberos
