import Kerberos.Des.Schedule
import Kerberos.Proofs.Des.GoodKeys
import Kerberos.Proofs.Des.Inverse

/-!
# What the key schedule makes of a key

The round keys depend on all bits of a key but the lowest bit of each byte, which is free for parity
(`schedule_ofBytes_eq_iff`). A weak key chooses halves that look the same after a rotation by two
places. The rotations of the rounds, taken from the end, are those from the start with one place more
and up to an even number of places, so such a key has a partner whose round keys are its own in the
opposite order (`schedule_partner`), and encryption under the partner undoes encryption under the key.
-/

namespace Kerberos
namespace Des

variable {key key' : List UInt8} {chosen chosen' : BitVec 56}

/-! ## Bits of a block and of its bytes -/

theorem getElem?_toBytes (block : Block) {i : Nat} (h : i < 8) :
    (toBytes block)[i]? = some (UInt8.ofBitVec (block.extractLsb' (56 - 8 * i) 8)) := by
  have hplaces : ∀ i < 8, [56, 48, 40, 32, 24, 16, 8, 0][i]? = some (56 - 8 * i) := by decide
  rw [toBytes, List.getElem?_map, hplaces i h, Option.map_some]

/-- The bits of a block are those of its bytes, each byte from its highest bit on. -/
theorem getMsbD_ofBytes (h : key.length = 8) {i j : Nat} (hi : i < 8) (hj : j < 8) :
    (ofBytes key).getMsbD (8 * i + j) = (key[i]?).any (bit · (7 - j)) := by
  have hplace : 63 - (8 * i + j) = 56 - 8 * i + (7 - j) := by omega
  have hbyte := getElem?_toBytes (ofBytes key) hi
  rw [toBytes_ofBytes h] at hbyte
  rw [hbyte, Option.any_some, bit, UInt8.toNat_ofBitVec, BitVec.testBit_toNat,
    BitVec.getLsbD_extractLsb', BitVec.getMsbD_eq_getLsbD, hplace,
    decide_eq_true (by omega : 8 * i + j < 64), decide_eq_true (by omega : 7 - j < 8)]

/-! ## The chosen bits -/

/-- Keys that agree in all but the lowest bit of each byte. -/
def SameButParity (key key' : List UInt8) : Prop :=
  key.map (· &&& 0xFE) = key'.map (· &&& 0xFE)

theorem sameButParity_fixParity (key : List UInt8) : SameButParity (fixParity key) key := by
  rw [SameButParity, fixParity, List.map_map]
  exact List.map_congr_left fun b _ => upper_fixByte b

/-- A bit that does not belong to parity is above the lowest one of its byte. -/
theorem getMsbD_ofBytes_upper (h : key.length = 8) {i j : Nat} (hi : i < 8) (hj : j < 7) :
    (ofBytes key).getMsbD (8 * i + j) = (key[i]?).any (bit · (6 - j + 1)) := by
  have hplace : 7 - j = 6 - j + 1 := by omega
  rw [getMsbD_ofBytes h hi (Nat.lt_succ_of_lt hj), hplace]

/-- Agreement bit by bit. -/
theorem sameButParity_iff (h : key.length = 8) (h' : key'.length = 8) :
    SameButParity key key' ↔ ∀ i < 8, ∀ j < 7,
      (ofBytes key).getMsbD (8 * i + j) = (ofBytes key').getMsbD (8 * i + j) := by
  constructor
  · intro hsame i hi j hj
    have hbyte := congrArg (·[i]?) hsame
    rw [getMsbD_ofBytes_upper h hi hj, getMsbD_ofBytes_upper h' hi hj]
    simp only [List.getElem?_map, List.getElem?_eq_getElem (h ▸ hi : i < key.length),
      List.getElem?_eq_getElem (h' ▸ hi : i < key'.length), Option.map_some, Option.some.injEq,
      Option.any_some] at hbyte ⊢
    exact upper_eq_iff.1 hbyte (6 - j)
  · intro hbits
    apply List.ext_getElem
    · rw [List.length_map, List.length_map, h, h']
    · intro i hi hi'
      rw [List.length_map] at hi hi'
      rw [List.getElem_map, List.getElem_map, upper_eq_iff]
      intro j
      by_cases hj : j < 7
      · -- bits are counted from the lowest one in a byte, and from the highest one in a block
        have hsix : 6 - j < 7 := by omega
        have hback : 6 - (6 - j) = j := by omega
        have hsame := hbits i (h ▸ hi) (6 - j) hsix
        rw [getMsbD_ofBytes_upper h (h ▸ hi) hsix, getMsbD_ofBytes_upper h' (h ▸ hi) hsix, hback,
          List.getElem?_eq_getElem hi, List.getElem?_eq_getElem hi'] at hsame
        exact hsame
      · rw [bit_of_le _ (by omega), bit_of_le _ (by omega)]

/-- The table names no lowest bit of a byte, -/
theorem place_keyChoice :
    ∀ k : Fin 56, (keyChoice[k.val] - 1) / 8 < 8 ∧ (keyChoice[k.val] - 1) % 8 < 7 := by
  decide

/-- and it names all other bits. -/
theorem exists_keyChoice : ∀ i < 8, ∀ j < 7, ∃ k : Fin 56, keyChoice[k.val] - 1 = 8 * i + j := by
  decide

/-- The chosen bits are all those that do not belong to parity. -/
theorem permute_keyChoice_eq_iff (h : key.length = 8) (h' : key'.length = 8) :
    permute keyChoice (ofBytes key) = permute keyChoice (ofBytes key') ↔
      SameButParity key key' := by
  rw [sameButParity_iff h h']
  constructor
  · intro hchosen i hi j hj
    rcases exists_keyChoice i hi j hj with ⟨k, hk⟩
    have hbit := congrArg (·.getMsbD k.val) hchosen
    simp only [getMsbD_permute keyChoice _ k.val k.isLt] at hbit
    rwa [hk] at hbit
  · intro hbits
    apply BitVec.eq_of_getMsbD_eq
    intro k hk
    rcases place_keyChoice ⟨k, hk⟩ with ⟨hi, hj⟩
    have hbit := hbits _ hi _ hj
    rw [Nat.div_add_mod] at hbit
    rw [getMsbD_permute keyChoice _ k hk, getMsbD_permute keyChoice _ k hk]
    exact hbit

/-! ## Rotations -/

/-- The chosen bits with both halves rotated to the left. -/
def rotateHalves (chosen : BitVec 56) (r : Nat) : BitVec 56 :=
  (chosen.extractLsb' 28 28).rotateLeft r ++ (chosen.extractLsb' 0 28).rotateLeft r

theorem roundKey_eq (chosen : BitVec 56) (r : Nat) :
    roundKey chosen r = permute roundKeyChoice (rotateHalves chosen r) :=
  rfl

/-- The place from which a rotation of the halves takes a bit. -/
def rotatedPlace (r i : Nat) : Nat :=
  28 * (i / 28) + (r + i) % 28

theorem getMsbD_rotateHalves (chosen : BitVec 56) (r : Nat) {i : Nat} (h : i < 56) :
    (rotateHalves chosen r).getMsbD i = chosen.getMsbD (rotatedPlace r i) := by
  rw [rotateHalves, BitVec.getMsbD_append, rotatedPlace]
  by_cases hleft : i < 28
  · rw [if_neg (Nat.not_le.2 hleft), BitVec.getMsbD_rotateLeft, BitVec.getMsbD_extractLsb',
      decide_eq_true hleft, decide_eq_true (by omega), decide_eq_true (by omega),
      Bool.true_and, Bool.true_and, Bool.true_and]
    congr 1
    omega
  · rw [if_pos (Nat.le_of_not_lt hleft), BitVec.getMsbD_rotateLeft, BitVec.getMsbD_extractLsb',
      decide_eq_true (by omega), decide_eq_true (by omega), decide_eq_true (by omega),
      Bool.true_and, Bool.true_and, Bool.true_and]
    congr 1
    omega

theorem rotateHalves_rotateHalves (chosen : BitVec 56) (r r' : Nat) :
    rotateHalves (rotateHalves chosen r) r' = rotateHalves chosen (r + r') := by
  apply BitVec.eq_of_getMsbD_eq
  intro i hi
  have hplace : rotatedPlace r' i < 56 := by
    rw [rotatedPlace]
    omega
  rw [getMsbD_rotateHalves _ r' hi, getMsbD_rotateHalves _ r hplace, getMsbD_rotateHalves _ _ hi]
  congr 1
  simp only [rotatedPlace]
  omega

/-- Every bit of the halves is in the key of one of the first two rounds. -/
theorem exists_roundKeyChoice :
    ∀ p < 56, ∃ r ∈ [1, 2], ∃ k : Fin 48, rotatedPlace r (roundKeyChoice[k.val] - 1) = p := by
  decide +kernel

theorem place_roundKeyChoice : ∀ k : Fin 48, roundKeyChoice[k.val] - 1 < 56 := by
  decide

/-- The round keys determine the chosen bits. -/
theorem eq_of_roundKey_eq (h : ∀ r ∈ [1, 2], roundKey chosen r = roundKey chosen' r) :
    chosen = chosen' := by
  apply BitVec.eq_of_getMsbD_eq
  intro p hp
  rcases exists_roundKeyChoice p hp with ⟨r, hr, k, rfl⟩
  have hbit := congrArg (·.getMsbD k.val) (h r hr)
  simp only [roundKey_eq, getMsbD_permute roundKeyChoice _ k.val k.isLt] at hbit
  rwa [getMsbD_rotateHalves _ r (place_roundKeyChoice k),
    getMsbD_rotateHalves _ r (place_roundKeyChoice k)] at hbit

/-- Two keys have the same round keys exactly if they agree in all bits but those of parity. -/
theorem schedule_ofBytes_eq_iff (h : key.length = 8) (h' : key'.length = 8) :
    schedule (ofBytes key) = schedule (ofBytes key') ↔ SameButParity key key' := by
  rw [← permute_keyChoice_eq_iff h h']
  constructor
  · intro hschedule
    apply eq_of_roundKey_eq
    have hall : ∀ r ∈ rotations, _ := List.map_inj_left.1 hschedule
    have hfirst : ∀ r ∈ [1, 2], r ∈ rotations := by decide
    intro r hr
    exact hall r (hfirst r hr)
  · intro hchosen
    rw [schedule, schedule, hchosen]

/-! ## Weak keys -/

/-- A rotation of halves that look the same two places further depends only on whether it is by an odd
number of places. -/
theorem rotateHalves_congr (h : rotateHalves chosen 2 = rotateHalves chosen 0) {r r' : Nat}
    (hparity : r % 2 = r' % 2) : rotateHalves chosen r = rotateHalves chosen r' := by
  have hstep : ∀ r n, rotateHalves chosen (r + 2 * n) = rotateHalves chosen r := by
    intro r n
    induction n with
    | zero => rfl
    | succ n ih =>
      calc
        rotateHalves chosen (r + 2 * (n + 1))
            = rotateHalves (rotateHalves chosen 2) (r + 2 * n) := by
              rw [rotateHalves_rotateHalves]
              congr 1
              omega
        _ = rotateHalves chosen (r + 2 * n) := by
              rw [h, rotateHalves_rotateHalves, Nat.zero_add]
        _ = rotateHalves chosen r := ih
  calc
    rotateHalves chosen r = rotateHalves chosen (r % 2 + 2 * (r / 2)) := by rw [Nat.mod_add_div]
    _ = rotateHalves chosen (r' % 2 + 2 * (r' / 2)) := by rw [hstep, hstep, hparity]
    _ = rotateHalves chosen r' := by rw [Nat.mod_add_div]

/-- The key under which encryption undoes encryption under a weak key. -/
def partner (key : List UInt8) : List UInt8 :=
  (semiWeakPairs.findSome? fun p =>
    if p.1 = key then some p.2 else if p.2 = key then some p.1 else none).getD key

theorem isWeak_partner (h : isWeak key = true) : isWeak (partner key) = true := by
  revert key
  apply forall_weak
  decide +kernel

theorem partner_eq_iff (h : isWeak key = true) : partner key = key ↔ key ∈ weakKeys := by
  revert key
  apply forall_weak
  decide +kernel

theorem rotateHalves_two_of_isWeak (h : isWeak key = true) :
    rotateHalves (permute keyChoice (ofBytes key)) 2 =
      rotateHalves (permute keyChoice (ofBytes key)) 0 := by
  revert key
  apply forall_weak
  decide +kernel

theorem permute_keyChoice_partner (h : isWeak key = true) :
    permute keyChoice (ofBytes (partner key)) =
      rotateHalves (permute keyChoice (ofBytes key)) 1 := by
  revert key
  apply forall_weak
  decide +kernel

/-- The round keys of the partner are those of the key in the opposite order. -/
theorem schedule_partner (h : isWeak key = true) :
    schedule (ofBytes (partner key)) = (schedule (ofBytes key)).reverse := by
  have hsmall : ∀ r ∈ rotations, r ≤ 28 := by decide
  have hreverse : rotations.map (29 - ·) = rotations.reverse := by decide
  calc
    schedule (ofBytes (partner key))
        = rotations.map (roundKey (rotateHalves (permute keyChoice (ofBytes key)) 1)) := by
          rw [schedule, permute_keyChoice_partner h]
    _ = rotations.map (fun r => roundKey (permute keyChoice (ofBytes key)) (29 - r)) := by
          apply List.map_congr_left
          intro r hr
          have hle := hsmall r hr
          rw [roundKey_eq, roundKey_eq, rotateHalves_rotateHalves,
            rotateHalves_congr (rotateHalves_two_of_isWeak h)]
          omega
    _ = (rotations.map (29 - ·)).map (roundKey (permute keyChoice (ofBytes key))) := by
          rw [List.map_map]
          rfl
    _ = (schedule (ofBytes key)).reverse := by
          rw [hreverse, schedule, List.map_reverse]

theorem encryptBlock_partner (h : isWeak key = true) (block : Block) :
    encryptBlock (ofBytes (partner key)) (encryptBlock (ofBytes key) block) = block := by
  rw [encryptBlock, encryptBlock, schedule_partner h, crypt_reverse_crypt]

end Des
end Kerberos
