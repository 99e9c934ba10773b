import Kerberos.Proofs.Text.Utf8Canonical

/-!
# Well-formed byte strings

A byte string is well-formed if it consists of sequences that the standard's table allows. The
well-formed byte strings are those of texts. Reading with replacements gives a text that has the
same bytes again for these, and for no others: `encode_decodeReplacing_eq_iff`.
-/

namespace Kerberos
namespace Text
namespace Utf8

/-! ## Sequences of the table -/

/-- Whether some bytes are a sequence of the table. -/
inductive IsSequence : List UInt8 → Prop
  | one {b : UInt8} (hb : b.toNat ≤ 0x7F) : IsSequence [b]
  | two {b c : UInt8} (hlead : Leads b c 0) (hc : IsContinuation c) : IsSequence [b, c]
  | three {b c d : UInt8} (hlead : Leads b c 1) (hc : IsContinuation c) (hd : IsContinuation d) :
      IsSequence [b, c, d]
  | four {b c d e : UInt8} (hlead : Leads b c 2) (hc : IsContinuation c) (hd : IsContinuation d)
      (he : IsContinuation e) : IsSequence [b, c, d, e]

/-- A sequence of the table is that of a character. -/
theorem IsSequence.exists_utf8EncodeChar {bytes : List UInt8} (h : IsSequence bytes) :
    ∃ c, String.utf8EncodeChar c = bytes := by
  cases h with
  | one hb => exact ⟨_, utf8EncodeChar_one hb⟩
  | two hlead hc =>
    cases hlead with
    | two hlow hhigh => exact ⟨_, utf8EncodeChar_two hc hlow hhigh⟩
  | three hlead hc hd =>
    cases hlead with
    | three hlow hhigh hoverlong hsurrogate =>
      exact ⟨_, utf8EncodeChar_three hc hd hlow hhigh hoverlong hsurrogate⟩
  | four hlead hc hd he =>
    cases hlead with
    | four hlow hhigh hoverlong habove =>
      exact ⟨_, utf8EncodeChar_four hc hd he hlow hhigh hoverlong habove⟩

theorem isContinuation_ofNat (bits : Nat) : IsContinuation (UInt8.ofNat (bits % 64 + 128)) := by
  rw [IsContinuation, toNat_ofNat_of_lt (by omega)]
  omega

/-- The bytes of a character are a sequence of the table. -/
theorem isSequence_utf8EncodeChar (c : Char) : IsSequence (String.utf8EncodeChar c) := by
  have hrange := c.valid
  simp only [UInt32.isValidChar, Nat.isValidChar] at hrange
  unfold String.utf8EncodeChar
  -- the number of bytes depends on the range of the code point
  by_cases hone : c.val.toNat ≤ 0x7F
  · rw [if_pos hone]
    apply IsSequence.one
    rw [toNat_ofNat_of_lt (by omega)]
    exact hone
  have hsecond (bits : Nat) : (UInt8.ofNat (bits % 64 + 128)).toNat = bits % 64 + 128 :=
    toNat_ofNat_of_lt (by omega)
  by_cases htwo : c.val.toNat ≤ 0x7FF
  · have hlead : (UInt8.ofNat (c.val.toNat / 64 % 32 + 192)).toNat = c.val.toNat / 64 % 32 + 192 :=
      toNat_ofNat_of_lt (by omega)
    rw [if_neg hone, if_pos htwo]
    exact .two (.two (by omega) (by omega)) (isContinuation_ofNat _)
  by_cases hthree : c.val.toNat ≤ 0xFFFF
  · have hlead : (UInt8.ofNat (c.val.toNat / 4096 % 16 + 224)).toNat =
        c.val.toNat / 4096 % 16 + 224 := toNat_ofNat_of_lt (by omega)
    have hnext := hsecond (c.val.toNat / 64)
    rw [if_neg hone, if_neg htwo, if_pos hthree]
    exact .three (.three (by omega) (by omega) (by omega) (by omega)) (isContinuation_ofNat _)
      (isContinuation_ofNat _)
  · have hlead : (UInt8.ofNat (c.val.toNat / 262144 % 8 + 240)).toNat =
        c.val.toNat / 262144 % 8 + 240 := toNat_ofNat_of_lt (by omega)
    have hnext := hsecond (c.val.toNat / 4096)
    rw [if_neg hone, if_neg htwo, if_neg hthree]
    exact .four (.four (by omega) (by omega) (by omega) (by omega)) (isContinuation_ofNat _)
      (isContinuation_ofNat _) (isContinuation_ofNat _)

/-! ## Byte strings -/

/-- Whether a byte string consists of sequences of the table. -/
inductive WellFormed : List UInt8 → Prop
  | nil : WellFormed []
  | append {first rest : List UInt8} (hfirst : IsSequence first) (hrest : WellFormed rest) :
      WellFormed (first ++ rest)

theorem wellFormed_flatMap (chars : List Char) :
    WellFormed (chars.flatMap String.utf8EncodeChar) := by
  induction chars with
  | nil => exact .nil
  | cons c rest ih => exact .append (isSequence_utf8EncodeChar c) ih

/-- A byte string is well-formed if and only if it is the bytes of a text. -/
theorem wellFormed_iff {bytes : List UInt8} : WellFormed bytes ↔ ∃ text, encode text = bytes := by
  constructor
  · intro h
    induction h with
    | nil => exact ⟨"", rfl⟩
    | append hfirst _ ih =>
      rcases hfirst.exists_utf8EncodeChar with ⟨c, rfl⟩
      rcases ih with ⟨text, rfl⟩
      refine ⟨String.ofList (c :: text.toList), ?_⟩
      simp only [encode, String.toList_ofList, List.flatMap_cons]
  · rintro ⟨text, rfl⟩
    exact wellFormed_flatMap text.toList

/-! ## Reading with replacements -/

/-- Nothing is replaced in the bytes of a text. -/
theorem decodeReplacing_encode (text : String) : decodeReplacing (encode text) = text := by
  have hchars : (text.toList.map some).map (·.getD replacement) = text.toList := by
    rw [List.map_map]
    exact List.map_id text.toList
  rw [decodeReplacing, scan_encode, hchars, String.ofList_toList]

/-- The text that is read with replacements has the bytes it is read from if and only if these are
well-formed. -/
theorem encode_decodeReplacing_eq_iff {bytes : List UInt8} :
    encode (decodeReplacing bytes) = bytes ↔ WellFormed bytes := by
  rw [wellFormed_iff]
  constructor
  · -- whatever is replaced, what is read is a text
    intro h
    exact ⟨_, h⟩
  · rintro ⟨text, rfl⟩
    rw [decodeReplacing_encode]

end Utf8
end Text
end Kerberos
