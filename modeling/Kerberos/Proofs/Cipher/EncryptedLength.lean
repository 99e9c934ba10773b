import Kerberos.Proofs.Cipher.Mac
import Kerberos.Proofs.Cipher.Refusals
import Mathlib.Algebra.Group.Nat.Defs
import Mathlib.Order.Bounds.Basic

/-!
# The length of an encryption

The announced length of an encryption is the least number of bytes in whole blocks that has room for
the message and its padding, as long as this number is a size: `encryptedLength_exact`. The block
cipher never refuses a message of such a length because of its length.
-/

namespace Kerberos

/-! ## Rounding up -/

theorem Size.isLeast_roundUp {unit : Nat} (h : 0 < unit) (n : Nat) :
    IsLeast {m | unit ∣ m ∧ n ≤ m} (roundUp unit n) := by
  constructor
  · exact ⟨dvd_roundUp unit n, le_roundUp h n⟩
  · rintro m ⟨hdvd, hle⟩
    exact roundUp_le h hdvd hle

namespace CipherInfo

variable {info : CipherInfo}

/-- Both steps of the computation stop at the same bound as the exact result does: rounding never
goes below the sum. -/
theorem encryptedLength_eq (h : 0 < info.blockSize) (length padding : Nat) :
    info.encryptedLength length padding =
      if Size.roundUp info.blockSize (length + padding) < Size.limit then
        .ok (Size.roundUp info.blockSize (length + padding))
      else .error .badMessageSize := by
  have hle := Size.le_roundUp h (length + padding)
  by_cases hsum : length + padding < Size.limit
  · have hadd : Size.add? length padding = some (length + padding) := if_pos hsum
    rw [encryptedLength, hadd, Option.bind_some, Size.roundUp?_eq h hsum, Size.check?]
    by_cases hround : Size.roundUp info.blockSize (length + padding) < Size.limit
    · rw [if_pos hround, if_pos hround]
    · rw [if_neg hround, if_neg hround]
  · have hadd : Size.add? length padding = none := if_neg hsum
    have hround : ¬Size.roundUp info.blockSize (length + padding) < Size.limit := by
      intro hlt
      exact hsum (Nat.lt_of_le_of_lt hle hlt)
    rw [encryptedLength, hadd, Option.bind_none, if_neg hround]

theorem encryptedLength_eq_ok_iff (h : 0 < info.blockSize) {length padding m : Nat} :
    info.encryptedLength length padding = .ok m ↔
      m = Size.roundUp info.blockSize (length + padding) ∧ m < Size.limit := by
  rw [encryptedLength_eq h]
  by_cases hround : Size.roundUp info.blockSize (length + padding) < Size.limit
  · rw [if_pos hround, Except.ok.injEq]
    constructor
    · rintro rfl
      exact ⟨rfl, hround⟩
    · rintro ⟨rfl, -⟩
      rfl
  · rw [if_neg hround]
    constructor
    · intro herror
      cases herror
    · rintro ⟨rfl, hlt⟩
      exact absurd hlt hround

end CipherInfo

/-! ## Messages of whole blocks -/

namespace DesCbc

/-- What it means that the block cipher takes messages with so many encrypted bytes: where it says
that a size is wrong, it means another one, and where no other one is wrong, it succeeds. -/
structure TakesLength (n : Nat) : Prop where
  transform_refused : ∀ (d : Direction) (key : Key) (state : Option CipherState) (m : Message),
    m.dataBytes.length = n →
      (Provider.des.transform d key state m).answer = .error .badMessageSize →
        ∃ iv, state = some (.iv iv) ∧ iv.length ≠ 8
  transform_ok : ∀ (d : Direction) (key : Key) (iv : Option (List UInt8)) (m : Message),
    m.dataBytes.length = n → key.length = 8 → (∀ b ∈ iv, b.length = 8) →
      (Provider.des.transform d key (iv.map .iv) m).answer = .ok ()
  mac_refused : ∀ (key : Key) (m : Message) (iv : Option (List UInt8)) (output : List UInt8),
    m.dataBytes.length = n → (Provider.des.cbcMac key m iv output).answer = .error .badMessageSize →
      (∃ b ∈ iv, b.length ≠ 8) ∨ output.length ≠ 8
  mac_ok : ∀ (key : Key) (m : Message) (iv : Option (List UInt8)) (output : List UInt8),
    m.dataBytes.length = n → key.length = 8 → (∀ b ∈ iv, b.length = 8) → output.length = 8 →
      (Provider.des.cbcMac key m iv output).answer = .ok ()

variable {key : Key} {iv : Option (List UInt8)} {m : Message}

theorem answer_mac (h : Accepted key iv m) {output : List UInt8} (hout : output.length = 8) :
    (mac key m iv output).answer = .ok () := by
  by_cases hzero : m.dataLength = 0
  · rw [h.mac_of_no_data hzero]
  · rw [h.mac_of_data hzero hout]

theorem mac_of_wrong_key (hkey : key.length ≠ 8) (output : List UInt8) :
    mac key m iv output = ⟨.error .badKeySize, output⟩ := by
  have haccept : info.accept key iv m = .error .badKeySize := if_pos hkey
  rw [mac, haccept]

theorem takesLength_of_whole_blocks {n : Nat} (h : n % 8 = 0) : TakesLength n where
  transform_refused := by
    rintro d key state m rfl hanswer
    cases (Provider.answer_eq_error_iff d).1 hanswer with
    | desData _ hm _ => exact absurd h hm
    | desChain _ hiv _ => exact ⟨_, rfl, hiv⟩
  transform_ok := by
    rintro d key iv m rfl hkey hiv
    exact (Provider.answer_eq_ok_iff d).2 (.des hkey hiv h)
  mac_refused := by
    rintro key m iv output rfl hanswer
    apply Classical.byContradiction
    intro hnone
    have hiv : ∀ b ∈ iv, b.length = 8 := by
      intro b hb
      apply Decidable.byContradiction
      intro hlength
      exact hnone (.inl ⟨b, hb, hlength⟩)
    have hout : output.length = 8 := by
      apply Decidable.byContradiction
      intro hlength
      exact hnone (.inr hlength)
    -- only the key is left to be wrong, and this is reported as such
    have hcode : (mac key m iv output).answer = .error .badMessageSize := hanswer
    by_cases hkey : key.length = 8
    · rw [answer_mac (.of_lengths hkey hiv h) hout] at hcode
      cases hcode
    · rw [mac_of_wrong_key hkey] at hcode
      cases hcode
  mac_ok := by
    rintro key m iv output rfl hkey hiv hout
    exact answer_mac (.of_lengths hkey hiv h) hout

end DesCbc

/-! ## The announced length -/

namespace Provider

theorem blockSize_pos (p : Provider) : 0 < p.info.blockSize := by
  cases p <;> decide

/-- For every cipher, the announced length is the least number of bytes in whole blocks that has
room for the message and the padding; where this number does not fit in a machine word, no length is
announced. So the length grows with both arguments, a message of an announced length gets this very
length, and the block cipher does not refuse a message with so many encrypted bytes because of their
number. -/
theorem encryptedLength_exact (p : Provider) :
    (∀ length padding, ∃ m,
        IsLeast {n | p.info.blockSize ∣ n ∧ length + padding ≤ n} m ∧
          p.info.encryptedLength length padding =
            if m < 2 ^ 64 then .ok m else .error .badMessageSize) ∧
      (∀ length length' padding padding' m', length ≤ length' → padding ≤ padding' →
        p.info.encryptedLength length' padding' = .ok m' →
          ∃ m ≤ m', p.info.encryptedLength length padding = .ok m) ∧
      ∀ length padding m, p.info.encryptedLength length padding = .ok m →
        p.info.encryptedLength m 0 = .ok m ∧ (p = .des → DesCbc.TakesLength m) := by
  have hunit := p.blockSize_pos
  refine ⟨?_, ?_, ?_⟩
  · intro length padding
    exact ⟨_, Size.isLeast_roundUp hunit _, CipherInfo.encryptedLength_eq hunit length padding⟩
  · intro length length' padding padding' m' hlength hpadding h
    rcases (CipherInfo.encryptedLength_eq_ok_iff hunit).1 h with ⟨rfl, hlt⟩
    have hmono := Size.roundUp_mono hunit (Nat.add_le_add hlength hpadding)
    refine ⟨_, hmono, ?_⟩
    exact (CipherInfo.encryptedLength_eq_ok_iff hunit).2 ⟨rfl, Nat.lt_of_le_of_lt hmono hlt⟩
  · intro length padding m h
    rcases (CipherInfo.encryptedLength_eq_ok_iff hunit).1 h with ⟨hm, hlt⟩
    have hdvd : p.info.blockSize ∣ m := hm ▸ Size.dvd_roundUp _ _
    constructor
    · refine (CipherInfo.encryptedLength_eq_ok_iff hunit).2 ⟨?_, hlt⟩
      exact (Size.roundUp_of_dvd hunit hdvd).symm
    · rintro rfl
      exact DesCbc.takesLength_of_whole_blocks (Nat.mod_eq_zero_of_dvd hdvd)

/-- The last length that can be announced, and a sum that fits where its rounding does not. -/
theorem encryptedLength_exact_at_limit :
    Provider.des.info.encryptedLength (2 ^ 64 - 11) 3 = .ok (2 ^ 64 - 8) ∧
      Provider.des.info.encryptedLength (2 ^ 64 - 11) 4 = .error .badMessageSize ∧
      Provider.des.info.encryptedLength (2 ^ 64 - 8) 0 = .ok (2 ^ 64 - 8) := by
  have hlast : Provider.des.info.encryptedLength (2 ^ 64 - 11) 3 = .ok (2 ^ 64 - 8) := by decide
  exact ⟨hlast, by decide, ((encryptedLength_exact .des).2.2 _ _ _ hlast).1⟩

end Provider
end Kerberos
