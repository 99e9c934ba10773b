import Kerberos.Enctype
import Kerberos.Proofs.Text.Hex
import Kerberos.Proofs.Text.Integer
import Mathlib.Data.List.Forall2

/-!
# How encryption types are spelled

A text stands for an encryption type if it is its name, in any case of the letters, or an integer
literal for its number. Nothing else is read as a type, and no text stands for two of them:
`parse?_eq_some_iff`. The grammar of these texts, character by character, is in
`parse?_accepts_grammar`.
-/

namespace Kerberos

namespace Text
namespace Integer

/-- Whether a literal can start with a character: a sign or a digit. -/
def canStart (c : Char) : Bool :=
  c == '-' || c == '+' || c.isDigit

theorem exists_head_of_signed? {cs : List Char} {n : Int} (h : signed? cs = some n) :
    ∃ c rest, cs = c :: rest ∧ canStart c = true := by
  cases cs with
  | nil => cases h
  | cons c rest =>
    refine ⟨c, rest, rfl, ?_⟩
    by_cases hminus : c = '-'
    · simp [canStart, hminus]
    · by_cases hplus : c = '+'
      · simp [canStart, hplus]
      · -- without a sign all characters have to be digits
        apply Decidable.byContradiction
        intro hstart
        have hdigit : c.isDigit = false := by
          simpa [canStart, hminus, hplus] using hstart
        simp [signed?, unsigned?, digits?, hminus, hplus, hdigit] at h

end Integer
end Text

namespace Enctype

/-- Whether a text stands for a type. -/
inductive Spells (e : Enctype) (text : String) : Prop
  | name (h : foldCase text = foldCase e.name)
  | number (h : Text.Integer.signed? text.toList = some e.number)

theorem ofNumber?_eq_some_iff {n : Int} {e : Enctype} : ofNumber? n = some e ↔ e.number = n := by
  constructor
  · intro h
    have hnumber := List.find?_some h
    exact of_decide_eq_true hnumber
  · rintro rfl
    cases e <;> rfl

theorem ofName?_eq_some_iff {text : String} {e : Enctype} :
    ofName? text = some e ↔ foldCase text = foldCase e.name := by
  constructor
  · intro h
    have hname := List.find?_some h
    exact (of_decide_eq_true hname).symm
  · intro h
    rw [ofName?, h]
    cases e <;> decide

/-- All names start with a letter, and so do their spellings. -/
theorem exists_letter_of_name {text : String} {e : Enctype}
    (h : foldCase text = foldCase e.name) :
    ∃ c rest, text.toList = c :: rest ∧ Text.Integer.canStart c = false := by
  -- both cases of the first letter are needed, since only the text in lower case is known
  have hname : ∃ x tail, Text.Integer.canStart x = false ∧
      Text.Integer.canStart x.toUpper = false ∧ text.toList.map Char.toLower = x :: tail := by
    cases e with
    | desCbcCrc => exact ⟨'d', _, by decide, by decide, h⟩
    | desCbcMd4 => exact ⟨'d', _, by decide, by decide, h⟩
    | desCbcMd5 => exact ⟨'d', _, by decide, by decide, h⟩
    | arcfourHmac => exact ⟨'a', _, by decide, by decide, h⟩
    | camellia128CtsCmac => exact ⟨'c', _, by decide, by decide, h⟩
    | camellia256CtsCmac => exact ⟨'c', _, by decide, by decide, h⟩
  rcases hname with ⟨x, tail, hlow, hup, hlower⟩
  rcases List.map_eq_cons_iff.1 hlower with ⟨c, rest, htext, hc, -⟩
  refine ⟨c, rest, htext, ?_⟩
  rcases Text.eq_or_eq_toUpper_of_toLower_eq hc with rfl | rfl
  · exact hlow
  · exact hup

/-- No name is an integer literal. -/
theorem signed?_eq_none_of_name {text : String} {e : Enctype}
    (h : foldCase text = foldCase e.name) : Text.Integer.signed? text.toList = none := by
  cases hliteral : Text.Integer.signed? text.toList with
  | none => rfl
  | some n =>
    rcases exists_letter_of_name h with ⟨c, rest, htext, hc⟩
    rcases Text.Integer.exists_head_of_signed? hliteral with ⟨c', rest', htext', hc'⟩
    rw [htext] at htext'
    cases htext'
    rw [hc] at hc'
    cases hc'

/-- A text is read as a type if and only if it stands for it. -/
theorem parse?_eq_some_iff {text : String} {e : Enctype} :
    parse? text = some e ↔ e.Spells text := by
  constructor
  · intro h
    rw [parse?] at h
    cases hword : Text.Integer.word? text.toList with
    | none =>
      rw [hword] at h
      exact .name (ofName?_eq_some_iff.1 h)
    | some n =>
      rw [hword] at h
      refine .number ?_
      rw [ofNumber?_eq_some_iff.1 h]
      exact (Text.Integer.word?_eq_some_iff.1 hword).1.signed?_eq
  · intro h
    cases h with
    | name hname =>
      rw [parse?, Text.Integer.word?_eq, signed?_eq_none_of_name hname]
      exact ofName?_eq_some_iff.2 hname
    | number hnumber =>
      have hrange : -2 ^ 31 ≤ e.number ∧ e.number < 2 ^ 31 := by cases e <;> decide
      rw [parse?, Text.Integer.word?_eq_some_iff.2 ⟨.of_signed? hnumber, hrange⟩]
      exact ofNumber?_eq_some_iff.2 rfl

/-- No type has a negative number, so none is spelled with a hyphen in front. -/
theorem Spells.head?_ne_hyphen {text : String} {e : Enctype} (h : e.Spells text) :
    text.toList.head? ≠ some '-' := by
  intro hhead
  rcases List.head?_eq_some_iff.1 hhead with ⟨cs, htext⟩
  cases h with
  | name hname =>
    rcases exists_letter_of_name hname with ⟨c, rest, htext', hc⟩
    rw [htext] at htext'
    cases htext'
    cases hc
  | number hnumber =>
    rw [htext, Text.Integer.signed?_hyphen] at hnumber
    rcases Option.map_eq_some_iff.1 hnumber with ⟨n, -, hnegative⟩
    have hpositive : 0 < e.number := by cases e <;> decide
    omega

/-! ## The grammar -/

theorem foldCase_eq_iff {text name : String} :
    foldCase text = foldCase name ↔ List.Forall₂ Text.SameLetter text.toList name.toList := by
  have hsame : Text.SameLetter = fun c d => c.toLower = d.toLower := by
    funext c d
    exact propext Text.sameLetter_iff
  rw [foldCase, foldCase, ← List.forall₂_eq_eq_eq, List.forall₂_map_left_iff,
    List.forall₂_map_right_iff, hsame]

theorem spells_iff {text : String} {e : Enctype} :
    e.Spells text ↔
      Text.Integer.Literal text.toList e.number ∨
        List.Forall₂ Text.SameLetter text.toList e.name.toList := by
  constructor
  · intro h
    cases h with
    | name hname => exact .inr (foldCase_eq_iff.1 hname)
    | number hnumber => exact .inl (.of_signed? hnumber)
  · rintro (hliteral | hname)
    · exact .number hliteral.signed?_eq
    · exact .name (foldCase_eq_iff.2 hname)

/-- The characters of names. -/
def isNameCharacter (c : Char) : Bool :=
  c.isAlphanum || c == '-'

/-- Names are made of letters, digits and hyphens, and so are they in any case. -/
theorem isNameCharacter_of_mem {text : String} {e : Enctype} (h : foldCase text = foldCase e.name) :
    ∀ c ∈ text.toList, isNameCharacter c = true := by
  intro c hc
  have hnames : (foldCase e.name).all
      (fun x => isNameCharacter x && isNameCharacter x.toUpper) = true := by
    cases e <;> decide
  have hlower : c.toLower ∈ foldCase e.name := by
    rw [← h]
    exact List.mem_map_of_mem hc
  have hcases := List.all_eq_true.1 hnames _ hlower
  rw [Bool.and_eq_true] at hcases
  rcases Text.eq_or_eq_toUpper_of_toLower_eq (rfl : c.toLower = c.toLower) with hcase | hcase
  · rw [hcase]
    exact hcases.1
  · rw [hcase]
    exact hcases.2

theorem Spells.isAlphanum_or_sign {text : String} {e : Enctype} (h : e.Spells text) :
    ∀ c ∈ text.toList, c.isAlphanum = true ∨ c = '-' ∨ c = '+' := by
  intro c hc
  cases h with
  | name hname =>
    have hcharacter := isNameCharacter_of_mem hname c hc
    rw [isNameCharacter, Bool.or_eq_true, beq_iff_eq] at hcharacter
    rcases hcharacter with halphanum | hhyphen
    · exact .inl halphanum
    · exact .inr (.inl hhyphen)
  | number hnumber =>
    have hliteral := Text.Integer.Literal.of_signed? hnumber
    rcases hliteral.isDigit_or_sign c hc with hdigit | hplus | hminus
    · left
      rw [Char.isAlphanum, hdigit, Bool.or_true]
    · exact .inr (.inr hplus)
    · exact .inr (.inl hminus)

theorem parse?_eq_none_iff {text : String} : parse? text = none ↔ ∀ e, ¬Spells e text := by
  rw [Option.eq_none_iff_forall_ne_some]
  simp only [ne_eq, parse?_eq_some_iff]

/-- A literal is no name, so it stands for the type with its number or for none. -/
theorem parse?_of_literal {text : String} {n : Int} (h : Text.Integer.Literal text.toList n)
    (hnumber : ∀ e : Enctype, e.number ≠ n) : parse? text = none := by
  apply parse?_eq_none_iff.2
  intro e hspells
  have hread := h.signed?_eq
  cases hspells with
  | name hname =>
    rw [signed?_eq_none_of_name hname] at hread
    cases hread
  | number hliteral =>
    rw [hliteral] at hread
    exact hnumber e (Option.some.inj hread)

/-- The texts that are read as a type are the integer literals for its number, with at most one sign
and any number of zeros in front, and its name in any case of the letters. All other texts are read
as no type: also a literal for another number, however far out of the range of words it is and
whatever it leaves modulo the number of words, a sign alone, and a text with a blank or any other
character that is no letter or digit of ASCII and no sign. A text stands for one type at most, and
it is read as the name of this type is. -/
theorem parse?_accepts_grammar (text : String) :
    let stands (e : Enctype) : Prop :=
      Text.Integer.Literal text.toList e.number ∨
        List.Forall₂ Text.SameLetter text.toList e.name.toList
    (∀ e, parse? text = some e ↔ stands e) ∧
      (parse? text = none ↔ ∀ e, ¬stands e) ∧
      (∀ e e', stands e → stands e' → e = e') ∧
      (∀ e, parse? text = some e → parse? e.name = parse? text) ∧
      (∀ n, Text.Integer.Literal text.toList n → (∀ e : Enctype, e.number ≠ n) →
        parse? text = none) ∧
      (text = "+" ∨ text = "-" → parse? text = none) ∧
      ((∃ c ∈ text.toList, c.isAlphanum = false ∧ c ≠ '-' ∧ c ≠ '+') → parse? text = none) := by
  intro stands
  have hstands : ∀ e, parse? text = some e ↔ stands e :=
    fun e => parse?_eq_some_iff.trans spells_iff
  refine ⟨hstands, ?_, ?_, ?_, ?_, ?_, ?_⟩
  · rw [Option.eq_none_iff_forall_ne_some]
    exact forall_congr' fun e => not_congr (hstands e)
  · intro e e' h h'
    have hsame := ((hstands e).2 h).symm.trans ((hstands e').2 h')
    exact Option.some.inj hsame
  · intro e h
    rw [h]
    exact parse?_eq_some_iff.2 (.name rfl)
  · intro n hliteral hnumber
    exact parse?_of_literal hliteral hnumber
  · rintro (rfl | rfl)
    · decide
    · decide
  · rintro ⟨c, hc, halphanum, hhyphen, hplus⟩
    apply parse?_eq_none_iff.2
    intro e hspells
    rcases hspells.isAlphanum_or_sign c hc with h | h | h
    · rw [halphanum] at h
      cases h
    · exact hhyphen h
    · exact hplus h

/-- A number that leaves that of a type behind when its upper bits are dropped, a literal with a
sign and zeros, and a name in mixed case. -/
theorem parse?_accepts_grammar_wrapped :
    parse? "4294967319" = none ∧ parse? "+0000000000000023" = some .arcfourHmac ∧
      parse? "ArcFour-HMAC" = parse? "arcfour-hmac" := by
  have hdigits : Text.Integer.Literal "4294967319".toList 4294967319 :=
    .bare ⟨by decide, List.all_eq_true.1 (by decide), by decide⟩
  have hzeros : Text.Integer.Literal "+0000000000000023".toList Enctype.arcfourHmac.number :=
    .plus (n := 23) ⟨by decide, List.all_eq_true.1 (by decide), by decide⟩
  have hname : parse? "ArcFour-HMAC" = some .arcfourHmac := by decide
  refine ⟨?_, ?_, ?_⟩
  · exact (parse?_accepts_grammar "4294967319").2.2.2.2.1 _ hdigits (by rintro ⟨⟩ <;> decide)
  · exact ((parse?_accepts_grammar "+0000000000000023").1 _).2 (.inl hzeros)
  · exact ((parse?_accepts_grammar "ArcFour-HMAC").2.2.2.1 _ hname).symm

end Enctype
end Kerberos
