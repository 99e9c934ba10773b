import Kerberos.Des.Block

/-!
# Decryption undoes encryption

A round can be undone whatever its scrambling function is, because the half that goes into the
function is kept. So the rounds with the round keys in the opposite order undo the rounds, and the
two permutations around them are inverse to each other.
-/

namespace Kerberos
namespace Des

/-! ## The permutations -/

/-- Two tables are inverse to each other if each names the places of the other. -/
theorem permute_permute {n : Nat} {t t' : Vector Nat n}
    (h : ∀ i : Fin n, t[t'[i] - 1]? = some (i.val + 1)) (x : BitVec n) :
    permute t' (permute t x) = x := by
  apply BitVec.eq_of_getMsbD_eq
  intro i hi
  -- the second table takes its bit `i` from the place to which the first one has moved bit `i`
  have hplace : t[t'[i] - 1]? = some (i + 1) := h ⟨i, hi⟩
  rcases Vector.getElem?_eq_some_iff.1 hplace with ⟨hj, hentry⟩
  have hname : t[t'[i] - 1] - 1 = i := by
    simp [hentry]
  rw [getMsbD_permute t' _ i hi, getMsbD_permute t x _ hj, hname]

theorem permute_final_initial (x : BitVec 64) : permute final (permute initial x) = x :=
  permute_permute (by decide) x

theorem permute_initial_final (x : BitVec 64) : permute initial (permute final x) = x :=
  permute_permute (by decide) x

/-! ## The rounds -/

/-- A round with the halves exchanged before it undoes a round with the same key. -/
theorem round_swap_round (halves : BitVec 32 × BitVec 32) (key : BitVec 48) :
    round (round halves key).swap key = halves.swap := by
  have hundo : ∀ x y : BitVec 32, (x ^^^ y) ^^^ y = x := by
    intro x y
    rw [BitVec.xor_assoc, BitVec.xor_self, BitVec.xor_zero]
  simp only [round, Prod.swap_prod_mk, hundo]
  rfl

theorem rounds_cons (key : BitVec 48) (keys : List (BitVec 48))
    (halves : BitVec 32 × BitVec 32) :
    rounds (key :: keys) halves = rounds keys (round halves key) :=
  rfl

theorem rounds_concat (keys : List (BitVec 48)) (key : BitVec 48)
    (halves : BitVec 32 × BitVec 32) :
    rounds (keys ++ [key]) halves = (round (rounds keys halves).swap key).swap := by
  simp [rounds]

/-- The rounds with the keys in the opposite order undo the rounds. -/
theorem rounds_reverse_rounds (keys : List (BitVec 48)) (halves : BitVec 32 × BitVec 32) :
    rounds keys.reverse (rounds keys halves) = halves := by
  induction keys generalizing halves with
  | nil => simp [rounds]
  | cons key keys ih =>
    -- the first key is used last, after all other rounds have been undone
    calc
      rounds (key :: keys).reverse (rounds (key :: keys) halves)
          = (round (rounds keys.reverse (rounds keys (round halves key))).swap key).swap := by
            rw [List.reverse_cons, rounds_concat, rounds_cons]
      _ = (round (round halves key).swap key).swap := by rw [ih]
      _ = halves := by rw [round_swap_round, Prod.swap_swap]

/-! ## The cipher -/

theorem halves_append (block : Block) :
    block.extractLsb' 32 32 ++ block.extractLsb' 0 32 = block :=
  BitVec.extractLsb'_append_extractLsb'

/-- The cipher with the round keys in the opposite order undoes the cipher. -/
theorem crypt_reverse_crypt (keys : List (BitVec 48)) (block : Block) :
    crypt keys.reverse (crypt keys block) = block := by
  simp only [crypt, permute_initial_final, BitVec.extractLsb'_append_eq_left,
    BitVec.extractLsb'_append_eq_right, Prod.eta, rounds_reverse_rounds, halves_append,
    permute_final_initial]

theorem decryptBlock_encryptBlock (key : BitVec 64) (block : Block) :
    decryptBlock key (encryptBlock key block) = block :=
  crypt_reverse_crypt (schedule key) block

example : decryptBlock 0x0123456789ABCDEF 0x3FA40E8A984D4815 = 0x4E6F772069732074 := by
  decide +kernel

end Des
end Kerberos
