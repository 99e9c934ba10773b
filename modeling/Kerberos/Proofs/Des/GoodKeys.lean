import Kerberos.Des.Key

/-!
# Good keys from random bytes

A good key has eight bytes of odd parity and is not weak. Setting the parity of a byte changes its
lowest bit only, so seven random bytes would lose seven bits; these stand in the upper bits of the
last byte of the key. Putting them back is the inverse, so seven random bytes and eight bytes of odd
parity determine each other: `merge_spread`, `spread_merge`. Main statement:
`keyOfRandom_onto_good`.
-/

namespace Kerberos
namespace Des

variable {a b last : UInt8} {key front random : List UInt8}

/-! ## Bits of a byte -/

def bit (b : UInt8) (j : Nat) : Bool :=
  b.toNat.testBit j

theorem bit_or (a b : UInt8) (j : Nat) : bit (a ||| b) j = (bit a j || bit b j) := by
  rw [bit, UInt8.toNat_or, Nat.testBit_or, bit, bit]

theorem bit_and (a b : UInt8) (j : Nat) : bit (a &&& b) j = (bit a j && bit b j) := by
  rw [bit, UInt8.toNat_and, Nat.testBit_and, bit, bit]

theorem bit_of_le (b : UInt8) {j : Nat} (h : 8 ≤ j) : bit b j = false :=
  Nat.testBit_lt_two_pow
    (Nat.lt_of_lt_of_le b.toNat_lt (Nat.pow_le_pow_right (by decide) h))

theorem eq_of_bit_eq (h : ∀ j, bit a j = bit b j) : a = b :=
  UInt8.toNat_inj.1 (Nat.eq_of_testBit_eq h)

theorem bit_upperMask (j : Nat) : bit 0xFE j = decide (0 < j ∧ j < 8) := by
  by_cases hj : j < 8
  · revert j
    decide
  · rw [bit_of_le _ (Nat.le_of_not_lt hj), decide_eq_false fun h => hj h.2]

theorem bit_upper (b : UInt8) (j : Nat) : bit (b &&& 0xFE) j = (decide (0 < j) && bit b j) := by
  rw [bit_and, bit_upperMask]
  by_cases hj : j < 8
  · simp [hj, Bool.and_comm]
  · simp [bit_of_le b (Nat.le_of_not_lt hj)]

theorem upper_eq_iff : a &&& 0xFE = b &&& 0xFE ↔ ∀ j, bit a (j + 1) = bit b (j + 1) := by
  constructor
  · intro h j
    have hbit := congrArg (bit · (j + 1)) h
    simpa [bit_upper] using hbit
  · intro h
    apply eq_of_bit_eq
    intro j
    cases j with
    | zero => simp [bit_upper]
    | succ j => simp [bit_upper, h j]

/-! ## Parity -/

/-- What holds of the 256 numbers that fit in a byte holds of every byte. -/
theorem forall_byte {P : UInt8 → Prop} (h : ∀ n < 256, P (UInt8.ofNat n)) (b : UInt8) : P b := by
  have hb := h b.toNat b.toNat_lt
  rwa [UInt8.ofNat_toNat] at hb

theorem odd_ones_fixByte (b : UInt8) : ones (fixByte b) % 2 = 1 := by
  revert b
  apply forall_byte
  decide +kernel

theorem fixByte_of_odd : ones b % 2 = 1 → fixByte b = b := by
  revert b
  apply forall_byte
  decide +kernel

theorem upper_fixByte (b : UInt8) : fixByte b &&& 0xFE = b &&& 0xFE := by
  revert b
  apply forall_byte
  decide +kernel

/-- The lowest bit of a byte has no influence on what it is fixed to. -/
theorem fixByte_congr (h : a &&& 0xFE = b &&& 0xFE) : fixByte a = fixByte b := by
  simp only [fixByte, h]

theorem bit_fixByte_succ (b : UInt8) (j : Nat) : bit (fixByte b) (j + 1) = bit b (j + 1) :=
  upper_eq_iff.1 (upper_fixByte b) j

theorem hasOddParity_iff : hasOddParity key = true ↔ ∀ b ∈ key, ones b % 2 = 1 := by
  simp only [hasOddParity, List.all_eq_true, decide_eq_true_eq]

theorem hasOddParity_fixParity (key : List UInt8) : hasOddParity (fixParity key) = true := by
  rw [hasOddParity_iff]
  intro b hb
  rcases List.mem_map.1 hb with ⟨b', -, rfl⟩
  exact odd_ones_fixByte b'

/-! ## The lowest bits, side by side -/

theorem bit_lowest_shiftLeft (b : UInt8) {k : Nat} (hk : k < 8) (j : Nat) :
    bit ((b &&& 1) <<< UInt8.ofNat k) j = (decide (j = k) && bit b 0) := by
  have hlow : b &&& 1 = if bit b 0 then 1 else 0 := by
    revert b
    apply forall_byte
    decide +kernel
  have hpow : ∀ k < 8, ((1 : UInt8) <<< UInt8.ofNat k).toNat = 2 ^ k := by decide
  cases hbit : bit b 0 with
  | false =>
    rw [hlow, hbit, Bool.and_false]
    simp [bit]
  | true =>
    rw [hlow, hbit, Bool.and_true, if_pos rfl, bit, hpow k hk, Nat.testBit_two_pow]
    exact decide_eq_decide.2 eq_comm

/-- Each byte gives its lowest bit to the place above its own. -/
theorem bit_foldl_zipIdx {k : Nat} (h : k + random.length < 8) (acc : UInt8) (j : Nat) :
    bit ((random.zipIdx k).foldl
        (fun acc p => acc ||| ((p.1 &&& 1) <<< UInt8.ofNat (p.2 + 1))) acc) j =
      (bit acc j || (decide (k < j) && (random[j - (k + 1)]?).any (bit · 0))) := by
  -- on the bytes, for what those in front of them have given
  induction random generalizing k acc with
  | nil => simp
  | cons b rest ih =>
    rw [List.length_cons] at h
    rw [List.zipIdx_cons, List.foldl_cons, ih (by omega), bit_or,
      bit_lowest_shiftLeft b (by omega), Bool.or_assoc]
    congr 1
    rcases Nat.lt_trichotomy j (k + 1) with hlt | rfl | hgt
    · -- only bytes in front of this one give to a place below its own
      simp [Nat.ne_of_lt hlt, Nat.not_lt.2 (Nat.le_of_lt_succ hlt), Nat.not_lt.2 (Nat.le_of_lt hlt)]
    · -- its own place, to which no other byte gives
      simp
    · have hindex : j - (k + 1) = j - (k + 1 + 1) + 1 := by omega
      rw [hindex, List.getElem?_cons_succ]
      simp [Nat.ne_of_gt hgt, hgt, Nat.lt_of_succ_lt hgt]

theorem bit_gatherLowBits_succ (h : random.length < 8) (i : Nat) :
    bit (gatherLowBits random) (i + 1) = (random[i]?).any (bit · 0) := by
  have hfold := bit_foldl_zipIdx (by rwa [Nat.zero_add] : 0 + random.length < 8) 0 (i + 1)
  simpa [gatherLowBits, bit] using hfold

/-! ## Putting the lowest bits back -/

/-- The byte with its lowest bit replaced. -/
def withLowBit (b : UInt8) (low : Bool) : UInt8 :=
  (b &&& 0xFE) ||| (if low then 1 else 0)

theorem bit_withLowBit_zero (b : UInt8) (low : Bool) : bit (withLowBit b low) 0 = low := by
  rw [withLowBit, bit_or, bit_upper]
  cases low <;> rfl

theorem upper_withLowBit (b : UInt8) (low : Bool) : withLowBit b low &&& 0xFE = b &&& 0xFE := by
  rw [upper_eq_iff]
  intro j
  rw [withLowBit, bit_or, bit_upper]
  cases low <;> simp [bit, Nat.testBit_succ]

/-- A byte is made of its upper bits and its lowest one. -/
theorem withLowBit_eq (h : a &&& 0xFE = b &&& 0xFE) : withLowBit a (bit b 0) = b := by
  apply eq_of_bit_eq
  intro j
  cases j with
  | zero => exact bit_withLowBit_zero a _
  | succ j =>
    have hupper := (upper_withLowBit a (bit b 0)).trans h
    exact upper_eq_iff.1 hupper j

/-- The random bytes whose lowest bits stand in `last`, from bytes that agree with them in all other
bits. -/
def merge (front : List UInt8) (last : UInt8) : List UInt8 :=
  front.mapIdx fun i b => withLowBit b (bit last (i + 1))

theorem length_merge (front : List UInt8) (last : UInt8) :
    (merge front last).length = front.length :=
  List.length_mapIdx

theorem getElem?_merge (front : List UInt8) (last : UInt8) (i : Nat) :
    (merge front last)[i]? = (front[i]?).map fun b => withLowBit b (bit last (i + 1)) :=
  List.getElem?_mapIdx

theorem spread_eq (random : List UInt8) :
    spread random = fixParity random ++ [fixByte (gatherLowBits random)] :=
  List.map_append

/-- The random bytes can be read off the key. -/
theorem merge_spread (h : random.length < 8) :
    merge (fixParity random) (fixByte (gatherLowBits random)) = random := by
  apply List.ext_getElem?
  intro i
  rw [getElem?_merge, fixParity, List.getElem?_map, bit_fixByte_succ, bit_gatherLowBits_succ h]
  cases random[i]? with
  | none => rfl
  | some b => exact congrArg some (withLowBit_eq (upper_fixByte b))

theorem fixParity_merge (hfront : ∀ b ∈ front, ones b % 2 = 1) (last : UInt8) :
    fixParity (merge front last) = front := by
  apply List.ext_getElem?
  intro i
  rw [fixParity, List.getElem?_map, getElem?_merge]
  cases hb : front[i]? with
  | none => rfl
  | some b =>
    have hodd : ones b % 2 = 1 := hfront b (List.mem_of_getElem? hb)
    have hfix : fixByte (withLowBit b (bit last (i + 1))) = b := by
      rw [fixByte_congr (upper_withLowBit b _), fixByte_of_odd hodd]
    exact congrArg some hfix

/-- Seven lowest bits fill the upper bits of a byte. -/
theorem upper_gatherLowBits_merge (h : front.length = 7) (last : UInt8) :
    gatherLowBits (merge front last) &&& 0xFE = last &&& 0xFE := by
  have hlength : (merge front last).length < 8 := by
    rw [length_merge, h]
    decide
  rw [upper_eq_iff]
  intro j
  rw [bit_gatherLowBits_succ hlength, getElem?_merge]
  by_cases hj : j < front.length
  · rw [List.getElem?_eq_getElem hj]
    exact bit_withLowBit_zero _ _
  · -- there is no eighth byte, and a byte has no ninth bit
    have hend : front.length ≤ j := Nat.le_of_not_lt hj
    rw [List.getElem?_eq_none hend, bit_of_le last (by omega)]
    rfl

/-- Eight bytes of odd parity are the key of the seven bytes that are read off them. -/
theorem spread_merge (h : front.length = 7) (hfront : ∀ b ∈ front, ones b % 2 = 1)
    (hlast : ones last % 2 = 1) : spread (merge front last) = front ++ [last] := by
  rw [spread_eq, fixParity_merge hfront, fixByte_congr (upper_gatherLowBits_merge h last),
    fixByte_of_odd hlast]

theorem spread_injective {random' : List UInt8} (h : random.length < 8) (h' : random'.length < 8)
    (hsame : spread random = spread random') : random = random' := by
  rw [spread_eq, spread_eq] at hsame
  rcases List.append_inj' hsame rfl with ⟨hfront, hlast⟩
  rw [← merge_spread h, ← merge_spread h', hfront, List.singleton_inj.1 hlast]

/-! ## Good keys -/

/-- Whether a key has eight bytes of odd parity and is not weak. -/
structure IsGood (key : List UInt8) : Prop where
  length_eq : key.length = 8
  odd : ∀ b ∈ key, ones b % 2 = 1
  not_weak : isWeak key = false

theorem length_spread (h : random.length = 7) : (spread random).length = 8 := by
  rw [spread_eq, fixParity, List.length_append, List.length_map, h]
  rfl

theorem odd_spread (random : List UInt8) : ∀ b ∈ spread random, ones b % 2 = 1 :=
  hasOddParity_iff.1 (hasOddParity_fixParity _)

theorem mem_of_isWeak (h : isWeak key = true) :
    key ∈ weakKeys ++ semiWeakPairs.flatMap fun p => [p.1, p.2] := by
  rw [isWeak, Bool.or_eq_true, List.contains_iff_mem, List.any_eq_true] at h
  rw [List.mem_append, List.mem_flatMap]
  rcases h with hmem | ⟨p, hp, hkey⟩
  · exact .inl hmem
  · refine .inr ⟨p, hp, ?_⟩
    rw [Bool.or_eq_true, beq_iff_eq, beq_iff_eq] at hkey
    rcases hkey with rfl | rfl
    · exact List.mem_cons_self
    · exact List.mem_cons_of_mem _ List.mem_cons_self

/-- What holds of the sixteen entries of the table holds of every weak key. -/
theorem forall_weak {P : List UInt8 → Prop}
    (hall : ∀ key ∈ weakKeys ++ semiWeakPairs.flatMap fun p => [p.1, p.2], P key) :
    ∀ {key}, isWeak key = true → P key :=
  fun h => hall _ (mem_of_isWeak h)

theorem length_of_isWeak (h : isWeak key = true) : key.length = 8 := by
  revert key
  apply forall_weak
  decide

/-- A weak key does not become another weak key. -/
theorem isGood_perturb_of_isWeak (h : isWeak key = true) : IsGood (perturb key) := by
  have hperturb : (perturb key).length = 8 ∧ hasOddParity (perturb key) = true ∧
      isWeak (perturb key) = false := by
    revert key
    apply forall_weak
    decide +kernel
  rcases hperturb with ⟨hlength, hodd, hweak⟩
  exact ⟨hlength, hasOddParity_iff.1 hodd, hweak⟩

theorem take_perturb (key : List UInt8) : (perturb key).take 7 = key.take 7 := by
  rw [perturb, List.take_modify]
  exact List.modify_eq_self (List.length_take_le 7 key)

theorem perturb_perturb (key : List UInt8) : perturb (perturb key) = key := by
  have hxor : ((· ^^^ 0xF0) ∘ (· ^^^ 0xF0) : UInt8 → UInt8) = id := by
    funext b
    exact (UInt8.xor_assoc b 0xF0 0xF0).trans UInt8.xor_zero
  rw [perturb, perturb, List.modify_modify_eq, hxor, List.modify_id]

/-! ## Keys from random bytes -/

/-- The bytes of the key that seven random bytes give. -/
def goodBytes (random : List UInt8) : List UInt8 :=
  if isWeak (spread random) then perturb (spread random) else spread random

theorem keyOfRandom_of_length (h : random.length = 7) :
    keyOfRandom random = .ok ⟨.desCbcCrc, goodBytes random⟩ :=
  if_pos h

theorem keyOfRandom_of_wrong_length (h : random.length ≠ 7) :
    keyOfRandom random = .error .internal :=
  if_neg h

theorem isGood_goodBytes (h : random.length = 7) : IsGood (goodBytes random) := by
  rw [goodBytes]
  cases hweak : isWeak (spread random) with
  | true => exact isGood_perturb_of_isWeak hweak
  | false => exact ⟨length_spread h, odd_spread random, hweak⟩

theorem upper_goodBytes (h : random.length = 7) :
    ((goodBytes random).take 7).map (· &&& 0xFE) = random.map (· &&& 0xFE) := by
  have htake : (goodBytes random).take 7 = fixParity random := by
    have hspread : (spread random).take 7 = fixParity random := by
      rw [spread_eq]
      exact List.take_left' (by rw [fixParity, List.length_map, h])
    rw [goodBytes]
    cases isWeak (spread random) with
    | true => exact (take_perturb _).trans hspread
    | false => exact hspread
  rw [htake, fixParity, List.map_map]
  exact List.map_congr_left fun b _ => upper_fixByte b

/-- Every good key is the key of some random bytes. -/
theorem exists_random (h : IsGood key) : ∃ random, random.length = 7 ∧ goodBytes random = key := by
  rcases List.eq_nil_or_concat key with rfl | ⟨front, last, hkey⟩
  · exact absurd h.length_eq (by decide)
  · rw [List.concat_eq_append] at hkey
    subst hkey
    have hlength : front.length = 7 := by
      have hall := h.length_eq
      rw [List.length_append] at hall
      exact Nat.succ.inj hall
    have hspread : spread (merge front last) = front ++ [last] := by
      refine spread_merge hlength ?_ ?_
      · intro b hb
        exact h.odd b (List.mem_append_left _ hb)
      · exact h.odd last (List.mem_append_right _ List.mem_cons_self)
    refine ⟨merge front last, (length_merge front last).trans hlength, ?_⟩
    rw [goodBytes, hspread, h.not_weak]
    rfl

/-- Different bytes that give the same key were told apart by one of them giving a weak one. -/
theorem isWeak_ne_of_goodBytes_eq {random' : List UInt8} (h : random.length = 7)
    (h' : random'.length = 7) (hne : random ≠ random')
    (hsame : goodBytes random = goodBytes random') :
    isWeak (spread random) ≠ isWeak (spread random') := by
  intro hweak
  have hspread : spread random ≠ spread random' := fun heq =>
    hne (spread_injective (by omega) (by omega) heq)
  -- both keys are perturbed or neither is, and both ways can be undone
  rw [goodBytes, goodBytes, ← hweak] at hsame
  cases hkind : isWeak (spread random) with
  | true =>
    rw [hkind, if_pos rfl, if_pos rfl] at hsame
    apply hspread
    rw [← perturb_perturb (spread random), hsame, perturb_perturb]
  | false =>
    rw [hkind] at hsame
    exact hspread hsame

/-- Keys are made from seven bytes, of which all but the lowest bits stand in the first seven bytes of
the key. The keys that are made are the good ones, and all of them. Two different inputs give the same
key only if one of them, and not the other, has a weak key when its parity is fixed. -/
theorem keyOfRandom_onto_good :
    (∀ random, random.length ≠ 7 → keyOfRandom random = .error .internal) ∧
      (∀ random, random.length = 7 → ∃ bytes, keyOfRandom random = .ok ⟨.desCbcCrc, bytes⟩ ∧
        IsGood bytes ∧ (bytes.take 7).map (· &&& 0xFE) = random.map (· &&& 0xFE)) ∧
      (∀ bytes, IsGood bytes →
        ∃ random, random.length = 7 ∧ keyOfRandom random = .ok ⟨.desCbcCrc, bytes⟩) ∧
      ∀ random random' key, random ≠ random' → keyOfRandom random = .ok key →
        keyOfRandom random' = .ok key →
          isWeak (spread random) ≠ isWeak (spread random') := by
  have hlength : ∀ {random key}, keyOfRandom random = .ok key → random.length = 7 := by
    intro random key hok
    apply Decidable.byContradiction
    intro hne
    rw [keyOfRandom_of_wrong_length hne] at hok
    cases hok
  refine ⟨?_, ?_, ?_, ?_⟩
  · intro random hne
    exact keyOfRandom_of_wrong_length hne
  · intro random h
    exact ⟨goodBytes random, keyOfRandom_of_length h, isGood_goodBytes h, upper_goodBytes h⟩
  · intro bytes hgood
    rcases exists_random hgood with ⟨random, h, rfl⟩
    exact ⟨random, h, keyOfRandom_of_length h⟩
  · intro random random' key hne hok hok'
    have h := hlength hok
    have h' := hlength hok'
    rw [keyOfRandom_of_length h] at hok
    rw [keyOfRandom_of_length h', ← hok] at hok'
    have hsame : goodBytes random' = goodBytes random := by
      injection hok' with hkey
      exact congrArg Key.bytes hkey
    exact isWeak_ne_of_goodBytes_eq h h' hne hsame.symm

/-- Zeros, and the bytes that give the same key because those give a weak one. -/
theorem keyOfRandom_onto_good_zeros :
    let random : List UInt8 := [0, 0, 0, 0, 0, 0, 0]
    let random' : List UInt8 := [0, 0, 0, 1, 1, 1, 1]
    let bytes : List UInt8 := [0x01, 0x01, 0x01, 0x01, 0x01, 0x01, 0x01, 0xF1]
    random.length = 7 ∧ (random ++ random').length ≠ 7 ∧ random ≠ random' ∧ IsGood bytes ∧
      keyOfRandom (random ++ random') = .error .internal ∧
      keyOfRandom random = .ok ⟨.desCbcCrc, bytes⟩ ∧
      keyOfRandom random' = .ok ⟨.desCbcCrc, bytes⟩ ∧
      isWeak (spread random) ≠ isWeak (spread random') := by
  intro random random' bytes
  have h : random.length = 7 := rfl
  have hlong : (random ++ random').length ≠ 7 := by decide
  have hne : random ≠ random' := by decide
  have hbytes : goodBytes random = bytes := by decide +kernel
  have hbytes' : goodBytes random' = bytes := by decide +kernel
  have hok : keyOfRandom random = .ok ⟨.desCbcCrc, bytes⟩ := by
    rw [keyOfRandom_of_length h, hbytes]
  have hok' : keyOfRandom random' = .ok ⟨.desCbcCrc, bytes⟩ := by
    rw [keyOfRandom_of_length rfl, hbytes']
  rcases keyOfRandom_onto_good with ⟨hwrong, hgood, -, hcollision⟩
  rcases hgood random h with ⟨made, hmade, hisGood, -⟩
  rw [hok] at hmade
  cases hmade
  exact ⟨h, hlong, hne, hisGood, hwrong _ hlong, hok, hok', hcollision random random' _ hne hok hok'⟩

end Des
end Kerberos
