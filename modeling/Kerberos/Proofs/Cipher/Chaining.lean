import Kerberos.Cipher.Chaining

/-!
# Laws of cipher block chaining

A chaining value that is passed from block to block gives the textbook modes in both directions,
and what is left of it at the end is the last encrypted block. Decryption undoes encryption for
every block cipher that has an inverse. The authentication code of some blocks changes with every
single one of them.
-/

namespace Kerberos
namespace Chaining

variable {w : Nat}

/-- Passes a chaining value through some blocks: the results and the last chaining value. -/
def thread (step : BitVec w → BitVec w → BitVec w × BitVec w) :
    BitVec w → List (BitVec w) → List (BitVec w) × BitVec w
  | chain, [] => ([], chain)
  | chain, block :: rest =>
    let (out, next) := step chain block
    let (outs, last) := thread step next rest
    (out :: outs, last)

theorem thread_cons (step : BitVec w → BitVec w → BitVec w × BitVec w) (chain block : BitVec w)
    (rest : List (BitVec w)) :
    thread step chain (block :: rest) =
      ((step chain block).1 :: (thread step (step chain block).2 rest).1,
        (thread step (step chain block).2 rest).2) :=
  rfl

/-- More blocks go on from the chaining value that those before them have left. -/
theorem thread_append (step : BitVec w → BitVec w → BitVec w × BitVec w) (chain : BitVec w)
    (blocks rest : List (BitVec w)) :
    thread step chain (blocks ++ rest) =
      ((thread step chain blocks).1 ++ (thread step (thread step chain blocks).2 rest).1,
        (thread step (thread step chain blocks).2 rest).2) := by
  induction blocks generalizing chain with
  | nil => rfl
  | cons block blocks ih =>
    rw [List.cons_append, thread_cons, thread_cons, ih]
    rfl

/-- Encryption goes on with the block it has just made. -/
theorem thread_encryptStep (cipher : BitVec w → BitVec w) (chain : BitVec w)
    (blocks : List (BitVec w)) :
    thread (encryptStep cipher) chain blocks =
      (encrypt cipher chain blocks, (encrypt cipher chain blocks).getLastD chain) := by
  induction blocks generalizing chain with
  | nil => rfl
  | cons block rest ih =>
    rw [thread_cons, ih]
    simp only [encryptStep, encrypt, List.getLastD_cons]

/-- Decryption goes on with the block it has just read. -/
theorem thread_decryptStep (inverse : BitVec w → BitVec w) (chain : BitVec w)
    (blocks : List (BitVec w)) :
    thread (decryptStep inverse) chain blocks =
      (decrypt inverse chain blocks, blocks.getLastD chain) := by
  induction blocks generalizing chain with
  | nil => rfl
  | cons block rest ih =>
    rw [thread_cons, ih]
    simp only [decryptStep, decrypt, List.getLastD_cons]

/-- Decryption undoes encryption from the same chaining value. -/
theorem decrypt_encrypt {cipher inverse : BitVec w → BitVec w}
    (h : ∀ block, inverse (cipher block) = block) (chain : BitVec w) (blocks : List (BitVec w)) :
    decrypt inverse chain (encrypt cipher chain blocks) = blocks := by
  induction blocks generalizing chain with
  | nil => rfl
  | cons block rest ih =>
    have hhead : inverse (cipher (block ^^^ chain)) ^^^ chain = block :=
      calc
        inverse (cipher (block ^^^ chain)) ^^^ chain
            = (block ^^^ chain) ^^^ chain := by rw [h]
        _ = block ^^^ (chain ^^^ chain) := BitVec.xor_assoc block chain chain
        _ = block := by rw [BitVec.xor_self, BitVec.xor_zero]
    simp only [encrypt, decrypt, hhead, ih]

/-! ## Authentication codes -/

/-- The code of some blocks is what their encryption ends with. -/
theorem mac_eq_getLastD (cipher : BitVec w → BitVec w) (chain : BitVec w)
    (blocks : List (BitVec w)) :
    mac cipher chain blocks = (encrypt cipher chain blocks).getLastD chain := by
  induction blocks generalizing chain with
  | nil => rfl
  | cons block rest ih =>
    calc
      mac cipher chain (block :: rest)
          = mac cipher (cipher (block ^^^ chain)) rest := rfl
      _ = (encrypt cipher (cipher (block ^^^ chain)) rest).getLastD (cipher (block ^^^ chain)) :=
          ih _
      _ = (encrypt cipher chain (block :: rest)).getLastD chain := by
          simp only [encrypt, List.getLastD_cons]

/-- Chains that have parted never meet again over the same blocks. -/
theorem mac_injective {cipher : BitVec w → BitVec w} (h : Function.Injective cipher)
    (blocks : List (BitVec w)) : Function.Injective fun chain => mac cipher chain blocks := by
  induction blocks with
  | nil =>
    intro chain chain' hsame
    exact hsame
  | cons block rest ih =>
    intro chain chain' hsame
    have hnext : cipher (block ^^^ chain) = cipher (block ^^^ chain') := ih hsame
    exact (BitVec.xor_right_inj block).1 (h hnext)

/-- A block that is changed changes the code, whatever stands before and behind it. -/
theorem mac_ne_of_block_ne {cipher : BitVec w → BitVec w} (h : Function.Injective cipher)
    {block block' : BitVec w} (hne : block' ≠ block) (chain : BitVec w)
    (before rest : List (BitVec w)) :
    mac cipher chain (before ++ block' :: rest) ≠ mac cipher chain (before ++ block :: rest) := by
  intro hsame
  -- up to the changed block both chains are the same, and behind it they would have to meet
  simp only [mac, List.foldl_append, List.foldl_cons] at hsame
  have hnext := h (mac_injective h rest hsame)
  exact hne ((BitVec.xor_left_inj _).1 hnext)

end Chaining
end Kerberos
