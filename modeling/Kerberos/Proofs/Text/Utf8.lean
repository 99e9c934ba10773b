import Kerberos.Text.Parts
import Kerberos.Text.Utf8

/-!
# Reading what was written as UTF-8

The reader takes back every text from its bytes: each character is written as one sequence that
the table of well-formed sequences allows, and the reader takes exactly this sequence.
-/

namespace Kerberos
namespace Text
namespace Utf8

/-! ## Bytes of a sequence as numbers -/

theorem toNat_ofNat_of_lt {n : Nat} (h : n < 256) : (UInt8.ofNat n).toNat = n := by
  simp [Nat.mod_eq_of_lt h]

/-- A continuation byte adds its six bits. -/
theorem readTail_continuation (n point bits : Nat) (rest : List UInt8) :
    readTail (n + 1) point (UInt8.ofNat (bits % 64 + 128) :: rest) =
      readTail n (64 * point + bits % 64) rest := by
  have hlt : bits % 64 < 64 := Nat.mod_lt _ (by decide)
  have hbyte : (UInt8.ofNat (bits % 64 + 128)).toNat = bits % 64 + 128 :=
    toNat_ofNat_of_lt (by omega)
  have hrange : (0x80 : UInt8) ≤ UInt8.ofNat (bits % 64 + 128) ∧
      UInt8.ofNat (bits % 64 + 128) ≤ 0xBF := by
    simp only [UInt8.le_iff_toNat_le, hbyte]
    exact ⟨by simp, by simp; omega⟩
  have hextend : extend point (UInt8.ofNat (bits % 64 + 128)) = 64 * point + bits % 64 := by
    rw [extend, hbyte]
    omega
  rw [readTail, if_pos hrange, hextend]

/-! ## Lead bytes -/

theorem lead?_eq (b : UInt8) :
    lead? b =
      if b.toNat < 0xC2 then none
      else if b.toNat < 0xE0 then some ⟨0, 0x80, 0xBF⟩
      else if b.toNat = 0xE0 then some ⟨1, 0xA0, 0xBF⟩
      else if b.toNat = 0xED then some ⟨1, 0x80, 0x9F⟩
      else if b.toNat < 0xF0 then some ⟨1, 0x80, 0xBF⟩
      else if b.toNat = 0xF0 then some ⟨2, 0x90, 0xBF⟩
      else if b.toNat < 0xF4 then some ⟨2, 0x80, 0xBF⟩
      else if b.toNat = 0xF4 then some ⟨2, 0x80, 0x8F⟩
      else none := by
  simp [lead?, UInt8.lt_iff_toNat_lt, ← UInt8.toNat_inj]

theorem lead?_two {b c : UInt8} (hlow : 0xC2 ≤ b.toNat) (hhigh : b.toNat < 0xE0)
    (hc : 0x80 ≤ c.toNat ∧ c.toNat ≤ 0xBF) :
    ∃ l, lead? b = some l ∧ l.more = 0 ∧ l.low ≤ c ∧ c ≤ l.high := by
  refine ⟨⟨0, 0x80, 0xBF⟩, ?_, rfl, ?_, ?_⟩
  · rw [lead?_eq, if_neg (by omega), if_pos hhigh]
  · simpa [UInt8.le_iff_toNat_le] using hc.1
  · simpa [UInt8.le_iff_toNat_le] using hc.2

theorem lead?_three {b c : UInt8} (hlow : 0xE0 ≤ b.toNat) (hhigh : b.toNat < 0xF0)
    (hc : 0x80 ≤ c.toNat ∧ c.toNat ≤ 0xBF) (hoverlong : b.toNat = 0xE0 → 0xA0 ≤ c.toNat)
    (hsurrogate : b.toNat = 0xED → c.toNat ≤ 0x9F) :
    ∃ l, lead? b = some l ∧ l.more = 1 ∧ l.low ≤ c ∧ c ≤ l.high := by
  rw [lead?_eq, if_neg (by omega), if_neg (by omega)]
  simp only [UInt8.le_iff_toNat_le]
  by_cases hfirst : b.toNat = 0xE0
  · -- overlong forms are excluded
    exact ⟨⟨1, 0xA0, 0xBF⟩, if_pos hfirst, rfl, hoverlong hfirst, hc.2⟩
  · by_cases hlast : b.toNat = 0xED
    · -- surrogates are excluded
      refine ⟨⟨1, 0x80, 0x9F⟩, ?_, rfl, hc.1, hsurrogate hlast⟩
      rw [if_neg hfirst, if_pos hlast]
    · refine ⟨⟨1, 0x80, 0xBF⟩, ?_, rfl, hc.1, hc.2⟩
      rw [if_neg hfirst, if_neg hlast, if_pos hhigh]

theorem lead?_four {b c : UInt8} (hlow : 0xF0 ≤ b.toNat) (hhigh : b.toNat ≤ 0xF4)
    (hc : 0x80 ≤ c.toNat ∧ c.toNat ≤ 0xBF) (hoverlong : b.toNat = 0xF0 → 0x90 ≤ c.toNat)
    (habove : b.toNat = 0xF4 → c.toNat ≤ 0x8F) :
    ∃ l, lead? b = some l ∧ l.more = 2 ∧ l.low ≤ c ∧ c ≤ l.high := by
  rw [lead?_eq, if_neg (by omega), if_neg (by omega), if_neg (by omega), if_neg (by omega),
    if_neg (by omega)]
  simp only [UInt8.le_iff_toNat_le]
  by_cases hfirst : b.toNat = 0xF0
  · -- overlong forms are excluded
    exact ⟨⟨2, 0x90, 0xBF⟩, if_pos hfirst, rfl, hoverlong hfirst, hc.2⟩
  · by_cases hlast : b.toNat = 0xF4
    · -- nothing is above the last character
      refine ⟨⟨2, 0x80, 0x8F⟩, ?_, rfl, hc.1, habove hlast⟩
      rw [if_neg hfirst, if_neg (by omega), if_pos hlast]
    · refine ⟨⟨2, 0x80, 0xBF⟩, ?_, rfl, hc.1, hc.2⟩
      rw [if_neg hfirst, if_pos (by omega)]

/-- A sequence of several bytes whose second byte the table allows is read to its end. -/
theorem read_of_lead {b c : UInt8} {l : Lead} (hb : 0x80 ≤ b.toNat) (hlead : lead? b = some l)
    (hlow : l.low ≤ c) (hhigh : c ≤ l.high) (rest : List UInt8) :
    read b (c :: rest) = readTail l.more (extend (leadBits l b) c) rest := by
  have hlarge : ¬b < 0x80 := by
    simpa [UInt8.lt_iff_toNat_lt] using hb
  simp [read, hlarge, hlead, hlow, hhigh]

/-! ## Sequences of characters -/

theorem read_one {v : Nat} (h : v ≤ 0x7F) (rest : List UInt8) :
    read (UInt8.ofNat v) rest = (some (Char.ofNat v), rest) := by
  have hb : (UInt8.ofNat v).toNat = v := toNat_ofNat_of_lt (by omega)
  have hsmall : UInt8.ofNat v < 0x80 := by
    rw [UInt8.lt_iff_toNat_lt, hb]
    simp; omega
  simp only [read, hsmall, if_true, hb]

theorem read_two {v : Nat} (hlow : 0x7F < v) (hhigh : v ≤ 0x7FF) (rest : List UInt8) :
    read (UInt8.ofNat (v / 64 % 0x20 + 0xC0)) (UInt8.ofNat (v % 0x40 + 0x80) :: rest) =
      (some (Char.ofNat v), rest) := by
  have hb : (UInt8.ofNat (v / 64 % 0x20 + 0xC0)).toNat = v / 64 + 0xC0 := by
    rw [toNat_ofNat_of_lt (by omega)]
    omega
  have hc : (UInt8.ofNat (v % 0x40 + 0x80)).toNat = v % 64 + 0x80 :=
    toNat_ofNat_of_lt (by omega)
  rcases lead?_two (b := UInt8.ofNat (v / 64 % 0x20 + 0xC0))
      (c := UInt8.ofNat (v % 0x40 + 0x80)) (by omega) (by omega) (by omega) with
    ⟨l, hlead, hmore, hlow, hhigh⟩
  have hpoint : extend (leadBits l (UInt8.ofNat (v / 64 % 0x20 + 0xC0)))
      (UInt8.ofNat (v % 0x40 + 0x80)) = v := by
    have hmask : 1 <<< (5 - 0) = 32 := rfl
    rw [extend, leadBits, hmore, hmask, hb, hc]
    omega
  rw [read_of_lead (by omega) hlead hlow hhigh, hmore, hpoint, readTail]

theorem read_three {v : Nat} (hlow : 0x7FF < v) (hhigh : v ≤ 0xFFFF)
    (hsurrogate : v < 0xD800 ∨ 0xDFFF < v) (rest : List UInt8) :
    read (UInt8.ofNat (v / 4096 % 0x10 + 0xE0))
        (UInt8.ofNat (v / 64 % 0x40 + 0x80) :: UInt8.ofNat (v % 0x40 + 0x80) :: rest) =
      (some (Char.ofNat v), rest) := by
  have hb : (UInt8.ofNat (v / 4096 % 0x10 + 0xE0)).toNat = v / 4096 + 0xE0 := by
    rw [toNat_ofNat_of_lt (by omega)]
    omega
  have hc : (UInt8.ofNat (v / 64 % 0x40 + 0x80)).toNat = v / 64 % 64 + 0x80 :=
    toNat_ofNat_of_lt (by omega)
  rcases lead?_three (b := UInt8.ofNat (v / 4096 % 0x10 + 0xE0))
      (c := UInt8.ofNat (v / 64 % 0x40 + 0x80)) (by omega) (by omega) (by omega) (by omega)
      (by omega) with
    ⟨l, hlead, hmore, hlow, hhigh⟩
  have hpoint : 64 * extend (leadBits l (UInt8.ofNat (v / 4096 % 0x10 + 0xE0)))
      (UInt8.ofNat (v / 64 % 0x40 + 0x80)) + v % 64 = v := by
    have hmask : 1 <<< (5 - 1) = 16 := rfl
    rw [extend, leadBits, hmore, hmask, hb, hc]
    omega
  rw [read_of_lead (by omega) hlead hlow hhigh, hmore, readTail_continuation, hpoint, readTail]

theorem read_four {v : Nat} (hlow : 0xFFFF < v) (hhigh : v < 0x110000) (rest : List UInt8) :
    read (UInt8.ofNat (v / 262144 % 0x08 + 0xF0))
        (UInt8.ofNat (v / 4096 % 0x40 + 0x80) :: UInt8.ofNat (v / 64 % 0x40 + 0x80) ::
          UInt8.ofNat (v % 0x40 + 0x80) :: rest) =
      (some (Char.ofNat v), rest) := by
  have hb : (UInt8.ofNat (v / 262144 % 0x08 + 0xF0)).toNat = v / 262144 + 0xF0 := by
    rw [toNat_ofNat_of_lt (by omega)]
    omega
  have hc : (UInt8.ofNat (v / 4096 % 0x40 + 0x80)).toNat = v / 4096 % 64 + 0x80 :=
    toNat_ofNat_of_lt (by omega)
  rcases lead?_four (b := UInt8.ofNat (v / 262144 % 0x08 + 0xF0))
      (c := UInt8.ofNat (v / 4096 % 0x40 + 0x80)) (by omega) (by omega) (by omega) (by omega)
      (by omega) with
    ⟨l, hlead, hmore, hlow, hhigh⟩
  have hpoint : 64 * (64 * extend (leadBits l (UInt8.ofNat (v / 262144 % 0x08 + 0xF0)))
      (UInt8.ofNat (v / 4096 % 0x40 + 0x80)) + v / 64 % 64) + v % 64 = v := by
    have hmask : 1 <<< (5 - 2) = 8 := rfl
    rw [extend, leadBits, hmore, hmask, hb, hc]
    omega
  rw [read_of_lead (by omega) hlead hlow hhigh, hmore, readTail_continuation,
    readTail_continuation, hpoint, readTail]

/-- The reader takes back a character and leaves what follows it. -/
theorem read_utf8EncodeChar (c : Char) :
    ∃ b tail, String.utf8EncodeChar c = b :: tail ∧
      ∀ rest, read b (tail ++ rest) = (some c, rest) := by
  have hrange : c.val.toNat < 0x110000 ∧ (c.val.toNat < 0xD800 ∨ 0xDFFF < c.val.toNat) := by
    rcases c.valid with hsmall | ⟨hlarge, hmax⟩
    · exact ⟨by omega, .inl hsmall⟩
    · exact ⟨hmax, .inr hlarge⟩
  have hc : Char.ofNat c.val.toNat = c := Char.ofNat_toNat c
  unfold String.utf8EncodeChar
  -- the number of bytes depends on the range of the code point
  by_cases hone : c.val.toNat ≤ 0x7F
  · refine ⟨_, _, by rw [if_pos hone], ?_⟩
    intro rest
    rw [List.nil_append, read_one hone, hc]
  by_cases htwo : c.val.toNat ≤ 0x7FF
  · refine ⟨_, _, by rw [if_neg hone, if_pos htwo], ?_⟩
    intro rest
    rw [List.cons_append, List.nil_append, read_two (by omega) htwo, hc]
  by_cases hthree : c.val.toNat ≤ 0xFFFF
  · refine ⟨_, _, by rw [if_neg hone, if_neg htwo, if_pos hthree], ?_⟩
    intro rest
    rw [List.cons_append, List.cons_append, List.nil_append,
      read_three (by omega) hthree hrange.2, hc]
  · refine ⟨_, _, by rw [if_neg hone, if_neg htwo, if_neg hthree], ?_⟩
    intro rest
    rw [List.cons_append, List.cons_append, List.cons_append, List.nil_append,
      read_four (by omega) hrange.1, hc]

/-! ## ASCII characters -/

/-- No byte of a sequence of several bytes is that of an ASCII character. -/
theorem le_toNat_of_mem_utf8EncodeChar {c : Char} (hc : 0x7F < c.val.toNat) {b : UInt8}
    (hb : b ∈ String.utf8EncodeChar c) : 0x80 ≤ b.toNat := by
  have hbyte : ∀ n, 0x80 ≤ n → n < 0x100 → 0x80 ≤ (UInt8.ofNat n).toNat := by
    intro n hlow hhigh
    rw [toNat_ofNat_of_lt hhigh]
    exact hlow
  unfold String.utf8EncodeChar at hb
  rw [if_neg (by omega)] at hb
  split at hb
  · simp only [List.mem_cons, List.not_mem_nil, or_false] at hb
    rcases hb with rfl | rfl
    all_goals exact hbyte _ (by omega) (by omega)
  · split at hb
    · simp only [List.mem_cons, List.not_mem_nil, or_false] at hb
      rcases hb with rfl | rfl | rfl
      all_goals exact hbyte _ (by omega) (by omega)
    · simp only [List.mem_cons, List.not_mem_nil, or_false] at hb
      rcases hb with rfl | rfl | rfl | rfl
      all_goals exact hbyte _ (by omega) (by omega)

/-- The byte of an ASCII character stands in the bytes of a text only for this character. -/
theorem not_mem_encode_of_ascii {c : Char} (hc : c.val.toNat ≤ 0x7F) {text : String}
    (h : c ∉ text.toList) : UInt8.ofNat c.val.toNat ∉ encode text := by
  intro hmem
  have hb : (UInt8.ofNat c.val.toNat).toNat = c.val.toNat := toNat_ofNat_of_lt (by omega)
  rcases List.mem_flatMap.1 hmem with ⟨d, hd, hbyte⟩
  rcases Nat.lt_or_ge 0x7F d.val.toNat with hlarge | hsmall
  · have hle := le_toNat_of_mem_utf8EncodeChar hlarge hbyte
    omega
  · have hencode : String.utf8EncodeChar d = [UInt8.ofNat d.val.toNat] := if_pos hsmall
    rw [hencode, List.mem_singleton, ← UInt8.toNat_inj, hb, toNat_ofNat_of_lt (by omega)] at hbyte
    have hcd : c = d := Char.ext (UInt32.toNat_inj.1 hbyte)
    exact h (hcd ▸ hd)

/-! ## Texts -/

theorem scanUpTo_flatMap {chars : List Char} {fuel : Nat} (h : chars.length ≤ fuel) :
    scanUpTo fuel (chars.flatMap String.utf8EncodeChar) = chars.map some := by
  induction chars generalizing fuel with
  | nil =>
    cases fuel with
    | zero => rfl
    | succ fuel => rfl
  | cons c rest ih =>
    cases fuel with
    | zero => simp at h
    | succ fuel =>
      rcases read_utf8EncodeChar c with ⟨b, tail, hencode, hread⟩
      have hfuel : rest.length ≤ fuel := by simpa using h
      have hrest := ih hfuel
      rw [List.flatMap_cons, hencode, List.cons_append, scanUpTo, hread]
      simp only [hrest, List.map_cons]

theorem length_le_length_flatMap (chars : List Char) :
    chars.length ≤ (chars.flatMap String.utf8EncodeChar).length := by
  induction chars with
  | nil => simp
  | cons c rest ih =>
    rcases read_utf8EncodeChar c with ⟨b, tail, hencode, -⟩
    calc
      rest.length + 1 ≤ (rest.flatMap String.utf8EncodeChar).length + 1 := Nat.succ_le_succ ih
      _ ≤ tail.length + 1 + (rest.flatMap String.utf8EncodeChar).length := by omega
      _ = ((c :: rest).flatMap String.utf8EncodeChar).length := by
            rw [List.flatMap_cons, hencode, List.length_append, List.length_cons]

/-- All parts of a scan are characters if and only if none of them is malformed. -/
theorem mapM_id_eq_some_iff {parts : List (Option Char)} {chars : List Char} :
    parts.mapM id = some chars ↔ parts = chars.map some :=
  mapM_eq_some_iff fun _ _ => Iff.rfl

theorem scan_encode (text : String) : scan (encode text) = text.toList.map some :=
  scanUpTo_flatMap (length_le_length_flatMap text.toList)

/-- Every text is read back from its bytes. -/
theorem decode?_encode (text : String) : decode? (encode text) = some text := by
  rw [decode?, scan_encode, mapM_id_eq_some_iff.2 rfl, Option.map_some, String.ofList_toList]

/-- Different texts have different bytes. -/
theorem encode_injective {text text' : String} (h : encode text = encode text') : text = text' := by
  have hread := decode?_encode text
  rw [h, decode?_encode] at hread
  exact (Option.some.inj hread).symm

end Utf8
end Text
end Kerberos
