import Kerberos.Proofs.Text.Utf8

/-!
# Every text has one form as UTF-8

The reader takes nothing but what the writer writes: a sequence that the table of well-formed
sequences allows is the sequence of the character that is read from it. So a byte string is read as
a text if and only if it is the bytes of that text: `decode?_eq_some_iff`.
-/

namespace Kerberos
namespace Text
namespace Utf8

/-! ## Lead bytes -/

/-- Whether a byte can stand behind the first one of a sequence. -/
def IsContinuation (b : UInt8) : Prop :=
  0x80 ≤ b.toNat ∧ b.toNat ≤ 0xBF

/-- What a lead byte says of the sequence that it starts, with the byte behind it. -/
inductive Leads (b c : UInt8) : (more : Nat) → Prop
  | two (hlow : 0xC2 ≤ b.toNat) (hhigh : b.toNat < 0xE0) : Leads b c 0
  | three (hlow : 0xE0 ≤ b.toNat) (hhigh : b.toNat < 0xF0)
      (hoverlong : b.toNat = 0xE0 → 0xA0 ≤ c.toNat) (hsurrogate : b.toNat = 0xED → c.toNat ≤ 0x9F) :
      Leads b c 1
  | four (hlow : 0xF0 ≤ b.toNat) (hhigh : b.toNat ≤ 0xF4)
      (hoverlong : b.toNat = 0xF0 → 0x90 ≤ c.toNat) (habove : b.toNat = 0xF4 → c.toNat ≤ 0x8F) :
      Leads b c 2

/-- The table by the number of bytes of the sequences. -/
theorem leads_of_lead? {b c : UInt8} {l : Lead} (hlead : lead? b = some l) (hlow : l.low ≤ c)
    (hhigh : c ≤ l.high) : IsContinuation c ∧ Leads b c l.more := by
  rw [UInt8.le_iff_toNat_le] at hlow hhigh
  rw [lead?_eq] at hlead
  repeat' split at hlead
  all_goals cases hlead
  all_goals simp only [UInt8.toNat_ofNat, Nat.reducePow, Nat.reduceMod] at hlow hhigh
  · exact ⟨⟨by omega, by omega⟩, .two (by omega) (by omega)⟩
  · exact ⟨⟨by omega, by omega⟩, .three (by omega) (by omega) (by omega) (by omega)⟩
  · exact ⟨⟨by omega, by omega⟩, .three (by omega) (by omega) (by omega) (by omega)⟩
  · exact ⟨⟨by omega, by omega⟩, .three (by omega) (by omega) (by omega) (by omega)⟩
  · exact ⟨⟨by omega, by omega⟩, .four (by omega) (by omega) (by omega) (by omega)⟩
  · exact ⟨⟨by omega, by omega⟩, .four (by omega) (by omega) (by omega) (by omega)⟩
  · exact ⟨⟨by omega, by omega⟩, .four (by omega) (by omega) (by omega) (by omega)⟩

/-- A continuation byte is read with its six bits. -/
theorem exists_of_readTail_succ {n point : Nat} {bytes rest : List UInt8} {c : Char}
    (h : readTail (n + 1) point bytes = (some c, rest)) :
    ∃ b tail, bytes = b :: tail ∧ IsContinuation b ∧
      readTail n (64 * point + b.toNat % 64) tail = (some c, rest) := by
  cases bytes with
  | nil => simp [readTail] at h
  | cons b tail =>
    rw [readTail] at h
    by_cases hrange : 0x80 ≤ b ∧ b ≤ 0xBF
    · rw [if_pos hrange] at h
      simp only [UInt8.le_iff_toNat_le] at hrange
      exact ⟨b, tail, rfl, hrange, h⟩
    · rw [if_neg hrange] at h
      cases h

theorem eq_of_readTail_zero {point : Nat} {bytes rest : List UInt8} {c : Char}
    (h : readTail 0 point bytes = (some c, rest)) : c = Char.ofNat point ∧ rest = bytes := by
  cases h
  exact ⟨rfl, rfl⟩

/-! ## Sequences of characters -/

theorem toNat_val_ofNat {v : Nat} (h : v.isValidChar) : (Char.ofNat v).val.toNat = v := by
  have hchar : Char.ofNat v = Char.ofNatAux v h := dif_pos h
  rw [hchar]
  rfl

theorem ofNat_eq {n : Nat} {b : UInt8} (h : n = b.toNat) : UInt8.ofNat n = b := by
  rw [h, UInt8.ofNat_toNat]

theorem utf8EncodeChar_one {b : UInt8} (h : b.toNat ≤ 0x7F) :
    String.utf8EncodeChar (Char.ofNat b.toNat) = [b] := by
  have hpoint : (Char.ofNat b.toNat).val.toNat = b.toNat := toNat_val_ofNat (.inl (by omega))
  simp only [String.utf8EncodeChar, hpoint]
  rw [if_pos h, ofNat_eq rfl]

theorem utf8EncodeChar_two {b c : UInt8} (hc : IsContinuation c) (hlow : 0xC2 ≤ b.toNat)
    (hhigh : b.toNat < 0xE0) :
    String.utf8EncodeChar (Char.ofNat (64 * (b.toNat % 32) + c.toNat % 64)) = [b, c] := by
  rcases hc with ⟨hclow, hchigh⟩
  have hpoint := toNat_val_ofNat (v := 64 * (b.toNat % 32) + c.toNat % 64) (.inl (by omega))
  simp only [String.utf8EncodeChar, hpoint]
  rw [if_neg (by omega), if_pos (by omega), ofNat_eq (b := b) (by omega),
    ofNat_eq (b := c) (by omega)]

theorem utf8EncodeChar_three {b c d : UInt8} (hc : IsContinuation c) (hd : IsContinuation d)
    (hlow : 0xE0 ≤ b.toNat) (hhigh : b.toNat < 0xF0) (hoverlong : b.toNat = 0xE0 → 0xA0 ≤ c.toNat)
    (hsurrogate : b.toNat = 0xED → c.toNat ≤ 0x9F) :
    String.utf8EncodeChar
        (Char.ofNat (64 * (64 * (b.toNat % 16) + c.toNat % 64) + d.toNat % 64)) = [b, c, d] := by
  rcases hc with ⟨hclow, hchigh⟩
  rcases hd with ⟨hdlow, hdhigh⟩
  have hvalid : (64 * (64 * (b.toNat % 16) + c.toNat % 64) + d.toNat % 64).isValidChar := by
    simp only [Nat.isValidChar]
    omega
  simp only [String.utf8EncodeChar, toNat_val_ofNat hvalid]
  rw [if_neg (by omega), if_neg (by omega), if_pos (by omega), ofNat_eq (b := b) (by omega),
    ofNat_eq (b := c) (by omega), ofNat_eq (b := d) (by omega)]

theorem utf8EncodeChar_four {b c d e : UInt8} (hc : IsContinuation c) (hd : IsContinuation d)
    (he : IsContinuation e) (hlow : 0xF0 ≤ b.toNat) (hhigh : b.toNat ≤ 0xF4)
    (hoverlong : b.toNat = 0xF0 → 0x90 ≤ c.toNat) (habove : b.toNat = 0xF4 → c.toNat ≤ 0x8F) :
    String.utf8EncodeChar
        (Char.ofNat (64 * (64 * (64 * (b.toNat % 8) + c.toNat % 64) + d.toNat % 64) +
          e.toNat % 64)) = [b, c, d, e] := by
  rcases hc with ⟨hclow, hchigh⟩
  rcases hd with ⟨hdlow, hdhigh⟩
  rcases he with ⟨helow, hehigh⟩
  have hvalid : (64 * (64 * (64 * (b.toNat % 8) + c.toNat % 64) + d.toNat % 64) +
      e.toNat % 64).isValidChar := by
    simp only [Nat.isValidChar]
    omega
  simp only [String.utf8EncodeChar, toNat_val_ofNat hvalid]
  rw [if_neg (by omega), if_neg (by omega), if_neg (by omega), ofNat_eq (b := b) (by omega),
    ofNat_eq (b := c) (by omega), ofNat_eq (b := d) (by omega), ofNat_eq (b := e) (by omega)]

/-- A character that is read stands in the bytes as it is written. -/
theorem eq_utf8EncodeChar_of_read {b : UInt8} {bytes rest : List UInt8} {c : Char}
    (h : read b bytes = (some c, rest)) : b :: bytes = String.utf8EncodeChar c ++ rest := by
  unfold read at h
  by_cases hone : b < 0x80
  · rw [if_pos hone] at h
    cases h
    rw [UInt8.lt_iff_toNat_lt] at hone
    rw [utf8EncodeChar_one (Nat.le_of_lt_succ hone)]
    rfl
  · rw [if_neg hone] at h
    cases hlead : lead? b with
    | none => simp [hlead] at h
    | some l =>
      cases bytes with
      | nil => simp [hlead] at h
      | cons c' tail =>
        simp only [hlead] at h
        by_cases hrange : l.low ≤ c' ∧ c' ≤ l.high
        · rw [if_pos hrange, leadBits] at h
          rcases leads_of_lead? hlead hrange.1 hrange.2 with ⟨hc', hleads⟩
          -- the continuation bytes are read one after the other
          generalize l.more = more at h hleads
          cases hleads with
          | two hlow hhigh =>
            rcases eq_of_readTail_zero h with ⟨rfl, rfl⟩
            exact congrArg (· ++ rest) (utf8EncodeChar_two hc' hlow hhigh).symm
          | three hlow hhigh hoverlong hsurrogate =>
            rcases exists_of_readTail_succ h with ⟨d, tail, rfl, hd, h⟩
            rcases eq_of_readTail_zero h with ⟨rfl, rfl⟩
            exact congrArg (· ++ rest)
              (utf8EncodeChar_three hc' hd hlow hhigh hoverlong hsurrogate).symm
          | four hlow hhigh hoverlong habove =>
            rcases exists_of_readTail_succ h with ⟨d, tail, rfl, hd, h⟩
            rcases exists_of_readTail_succ h with ⟨e, tail, rfl, he, h⟩
            rcases eq_of_readTail_zero h with ⟨rfl, rfl⟩
            exact congrArg (· ++ rest)
              (utf8EncodeChar_four hc' hd he hlow hhigh hoverlong habove).symm
        · rw [if_neg hrange] at h
          cases h

/-! ## Texts -/

/-- A scan without malformed parts is one of the bytes of its characters. -/
theorem eq_flatMap_of_scanUpTo {fuel : Nat} {bytes : List UInt8} {chars : List Char}
    (hfuel : bytes.length ≤ fuel) (h : scanUpTo fuel bytes = chars.map some) :
    bytes = chars.flatMap String.utf8EncodeChar := by
  induction fuel generalizing bytes chars with
  | zero =>
    have hbytes : bytes = [] := List.eq_nil_of_length_eq_zero (Nat.eq_zero_of_le_zero hfuel)
    subst hbytes
    cases chars with
    | nil => rfl
    | cons c rest => simp [scanUpTo] at h
  | succ fuel ih =>
    cases bytes with
    | nil =>
      cases chars with
      | nil => rfl
      | cons c rest => simp [scanUpTo] at h
    | cons b bytes =>
      cases hread : read b bytes with
      | mk part rest =>
        cases chars with
        | nil => simp [scanUpTo, hread] at h
        | cons c chars =>
          simp only [scanUpTo, hread, List.map_cons, List.cons.injEq] at h
          rcases h with ⟨rfl, hrest⟩
          have hbytes := eq_utf8EncodeChar_of_read hread
          -- a character takes at least one byte, so the fuel is enough for the others
          have hlength := congrArg List.length hbytes
          have hpos : 0 < (String.utf8EncodeChar c).length := by
            rcases read_utf8EncodeChar c with ⟨first, tail, hencode, -⟩
            rw [hencode]
            exact Nat.succ_pos _
          simp only [List.length_append, List.length_cons] at hlength hfuel
          rw [hbytes, List.flatMap_cons, ← ih (by omega) hrest]

/-- A byte string is read as a text if and only if it is the bytes of that text. -/
theorem decode?_eq_some_iff {bytes : List UInt8} {text : String} :
    decode? bytes = some text ↔ bytes = encode text := by
  constructor
  · intro h
    rcases Option.map_eq_some_iff.1 h with ⟨chars, hscan, rfl⟩
    rw [encode, String.toList_ofList]
    exact eq_flatMap_of_scanUpTo (Nat.le_refl _) (mapM_id_eq_some_iff.1 hscan)
  · rintro rfl
    exact decode?_encode text

/-- A byte string is refused if and only if it is the bytes of no text. -/
theorem decode?_eq_none_iff {bytes : List UInt8} :
    decode? bytes = none ↔ ∀ text, bytes ≠ encode text := by
  rw [Option.eq_none_iff_forall_ne_some]
  constructor
  · intro h text hbytes
    exact h text (decode?_eq_some_iff.2 hbytes)
  · intro h text hread
    exact h text (decode?_eq_some_iff.1 hread)

end Utf8
end Text
end Kerberos
