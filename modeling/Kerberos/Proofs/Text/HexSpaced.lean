import Kerberos.Proofs.Text.Hex
import Kerberos.Text.Parts

/-!
# Pairs of digits with spaces between them

What is written for bytes in this form is cut at its spaces and read pair by pair. The reader takes
upper-case digits only, two for each byte, so every byte string has one text in this form and every
other text is refused: `decodeSpaced?_eq_some_iff`.
-/

namespace Kerberos
namespace Text
namespace Hex

/-! ## Reading -/

/-- The upper-case digits in the order of their values. -/
def upperDigits : List Char :=
  ['0', '1', '2', '3', '4', '5', '6', '7', '8', '9', 'A', 'B', 'C', 'D', 'E', 'F']

/-- The value of an upper-case digit, which is its place among them. -/
def upperDigit? (c : Char) : Option Nat :=
  upperDigits.idxOf? c

/-- The byte that two upper-case digits stand for. -/
def upperPair? : List Char → Option UInt8
  | [high, low] =>
    (upperDigit? high).bind fun h => (upperDigit? low).map fun l => UInt8.ofNat (16 * h + l)
  | _ => none

/-- The bytes that pairs of upper-case digits between spaces stand for. The empty text has no
pairs. -/
def decodeSpaced? (text : String) : Option (List UInt8) :=
  if text = "" then some [] else (parts ' ' text.toList).mapM upperPair?

/-! ## Digits -/

theorem upperDigit?_eq_some_iff {c : Char} {value : Nat} :
    upperDigit? c = some value ↔ value < 16 ∧ c = (Nat.digitChar value).toUpper := by
  constructor
  · intro h
    rcases List.idxOf?_eq_some_iff.1 h with ⟨hvalue, hdigit, -⟩
    have hplace : ∀ n, (hn : n < 16) → upperDigits[n] = (Nat.digitChar n).toUpper := by
      decide
    exact ⟨hvalue, hdigit.symm.trans (hplace value hvalue)⟩
  · rintro ⟨hvalue, rfl⟩
    have hread : ∀ n < 16, upperDigit? (Nat.digitChar n).toUpper = some n := by
      decide
    exact hread value hvalue

theorem upperPair_eq (b : UInt8) :
    upperPair b =
      [(Nat.digitChar (b.toNat / 16)).toUpper, (Nat.digitChar (b.toNat % 16)).toUpper] :=
  rfl

/-- Two characters are read as a byte if and only if they are written for it. -/
theorem upperPair?_eq_some_iff (pair : List Char) (b : UInt8) :
    upperPair? pair = some b ↔ pair = upperPair b := by
  constructor
  · intro h
    unfold upperPair? at h
    split at h
    · next high low =>
      rcases Option.bind_eq_some_iff.1 h with ⟨highValue, hhigh, hpair⟩
      rcases Option.map_eq_some_iff.1 hpair with ⟨lowValue, hlow, rfl⟩
      rcases upperDigit?_eq_some_iff.1 hhigh with ⟨hhighValue, rfl⟩
      rcases upperDigit?_eq_some_iff.1 hlow with ⟨hlowValue, rfl⟩
      -- the values are the halves of a byte
      have hbyte : (UInt8.ofNat (16 * highValue + lowValue)).toNat = 16 * highValue + lowValue := by
        rw [UInt8.toNat_ofNat', Nat.mod_eq_of_lt]
        omega
      have hdiv : (16 * highValue + lowValue) / 16 = highValue := by omega
      have hmod : (16 * highValue + lowValue) % 16 = lowValue := by omega
      rw [upperPair_eq, hbyte, hdiv, hmod]
    · cases h
  · rintro rfl
    have hhigh := upperDigit?_eq_some_iff.2 ⟨(halves_lt b).1, rfl⟩
    have hlow := upperDigit?_eq_some_iff.2 ⟨(halves_lt b).2, rfl⟩
    rw [upperPair_eq, upperPair?, hhigh, Option.bind_some, hlow, Option.map_some, Nat.div_add_mod,
      UInt8.ofNat_toNat]

theorem space_not_mem_upperPair (b : UInt8) : ' ' ∉ upperPair b := by
  have hdigit : ∀ n < 16, ' ' ≠ (Nat.digitChar n).toUpper := by decide
  rw [upperPair_eq]
  simp only [List.mem_cons, List.not_mem_nil, or_false, not_or]
  exact ⟨hdigit _ (halves_lt b).1, hdigit _ (halves_lt b).2⟩

/-! ## Texts -/

/-- A text that is not empty is cut into what is written for bytes if and only if it is what is
written for all of them. -/
theorem parts_eq_map_upperPair_iff {text : List Char} (h : text ≠ []) (bytes : List UInt8) :
    parts ' ' text = bytes.map upperPair ↔ text = [' '].intercalate (bytes.map upperPair) := by
  constructor
  · intro hparts
    rw [← hparts, intercalate_parts]
  · rintro rfl
    cases bytes with
    | nil => exact absurd rfl h
    | cons b rest =>
      have hspace : ∀ part ∈ (b :: rest).map upperPair, ' ' ∉ part := by
        intro part hpart
        rcases List.mem_map.1 hpart with ⟨c, -, rfl⟩
        exact space_not_mem_upperPair c
      exact parts_intercalate hspace

theorem encodeSpaced_eq_empty_iff (bytes : List UInt8) : encodeSpaced bytes = "" ↔ bytes = [] := by
  constructor
  · intro h
    cases bytes with
    | nil => rfl
    | cons b rest =>
      have hchars := congrArg String.toList h
      rw [encodeSpaced, String.toList_ofList, List.map_cons] at hchars
      cases rest <;> simp [List.intercalate, upperPair_eq] at hchars
  · rintro rfl
    rfl

/-- A text is read as some bytes if and only if it is the one written for them. -/
theorem decodeSpaced?_eq_some_iff {text : String} {bytes : List UInt8} :
    decodeSpaced? text = some bytes ↔ text = encodeSpaced bytes := by
  -- the empty text has one part, which is no pair, so it is not read by its parts
  by_cases htext : text = ""
  · rw [decodeSpaced?, if_pos htext, htext, Option.some_inj, eq_comm (a := ""),
      encodeSpaced_eq_empty_iff, eq_comm]
  · have hchars : text.toList ≠ [] := fun h => htext (String.toList_eq_nil_iff.1 h)
    rw [decodeSpaced?, if_neg htext, mapM_eq_some_iff upperPair?_eq_some_iff,
      parts_eq_map_upperPair_iff hchars, encodeSpaced]
    constructor
    · intro h
      rw [← h, String.ofList_toList]
    · rintro rfl
      rw [String.toList_ofList]

/-- Different bytes have different texts. -/
theorem encodeSpaced_injective {bytes bytes' : List UInt8}
    (h : encodeSpaced bytes = encodeSpaced bytes') : bytes = bytes' := by
  have hread := decodeSpaced?_eq_some_iff.2 h
  rw [decodeSpaced?_eq_some_iff.2 rfl] at hread
  exact Option.some.inj hread

end Hex
end Text
end Kerberos
