import Kerberos.Proofs.Cipher.Mac
import Kerberos.Proofs.Des.KeySchedule

/-!
# Keys with related round keys

Of a key of the right length the block cipher uses nothing but the round keys. So keys that differ
in parity bits only are the same key to it: setting parity changes no message, no state and no
authentication code (`parity_without_influence`). A weak key has round keys that are those of a key
in the table in the opposite order, so encryption of a block under one after the other gives the
block back (`weak_keys_undo_each_other`).
-/

namespace Kerberos
namespace DesCbc

open Des (blockSize blocksOf)

/-! ## Keys with the same round keys -/

section SameSchedule

variable {key key' : Key}

/-- Keys of the same length that have, if it is that of a key, the same round keys. -/
structure ActAlike (key key' : Key) : Prop where
  length_eq : key'.length = key.length
  schedule_eq : key.length = 8 →
    Des.schedule (Des.ofBytes key'.bytes) = Des.schedule (Des.ofBytes key.bytes)

namespace ActAlike

theorem of_sameButParity (h : Des.SameButParity key'.bytes key.bytes) : ActAlike key key' := by
  have hlength : key'.length = key.length := by
    simpa only [List.length_map, Key.length] using congrArg List.length h
  refine ⟨hlength, ?_⟩
  intro hkey
  exact (Des.schedule_ofBytes_eq_iff (hlength.trans hkey) hkey).2 h

theorem accept_eq (h : ActAlike key key') (iv : Option (List UInt8)) (m : Message) :
    info.accept key' iv m = info.accept key iv m := by
  rw [CipherInfo.accept, CipherInfo.accept, h.length_eq]

theorem transform_eq (h : ActAlike key key') (d : Direction) (state : Option CipherState)
    (m : Message) : transform d key' state m = transform d key state m := by
  cases hvalue : chainingValue state with
  | error e => simp only [transform, hvalue]
  | ok iv =>
    cases haccept : info.accept key iv m with
    | error e => simp only [transform, hvalue, h.accept_eq, haccept]
    | ok hasData =>
      -- only here the round keys are looked at, and the key has been found long enough
      have hkey : key.length = 8 := (Accepted.of_accept haccept).length_key
      have hrun : runAll d key' iv m = runAll d key iv m := by
        rw [runAll, runAll, h.schedule_eq hkey]
      simp only [transform, hvalue, h.accept_eq, haccept, hrun]

theorem mac_eq (h : ActAlike key key') (m : Message) (iv : Option (List UInt8))
    (output : List UInt8) : mac key' m iv output = mac key m iv output := by
  cases haccept : info.accept key iv m with
  | error e => simp only [mac, h.accept_eq, haccept]
  | ok hasData =>
    have hkey : key.length = 8 := (Accepted.of_accept haccept).length_key
    simp only [mac, h.accept_eq, haccept, h.schedule_eq hkey]

end ActAlike
end SameSchedule

/-- Setting the parity of a key, which makes it odd, changes nothing that the block cipher does with
it: calls in both directions and authentication codes have the same answers and leave the same
messages, states and outputs. -/
theorem parity_without_influence (key : Key) :
    Des.hasOddParity (Des.fixParity key.bytes) = true ∧
      ∀ (d : Direction) (state : Option CipherState) (m : Message) (iv : Option (List UInt8))
        (output : List UInt8),
        let fixed : Key := { key with bytes := Des.fixParity key.bytes }
        Provider.des.transform d fixed state m = Provider.des.transform d key state m ∧
          Provider.des.cbcMac fixed m iv output = Provider.des.cbcMac key m iv output := by
  refine ⟨Des.hasOddParity_fixParity key.bytes, ?_⟩
  intro d state m iv output fixed
  have halike : ActAlike key fixed := .of_sameButParity (Des.sameButParity_fixParity key.bytes)
  exact ⟨halike.transform_eq d state m, halike.mac_eq m iv output⟩

/-! ## Weak keys -/

/-- A single block that is chained with zeros is only encrypted. -/
theorem chained_encrypt_block (key : Key) {bytes : List UInt8} (h : bytes.length = blockSize) :
    chained .encrypt key emptyBlock bytes =
      Des.toBytes (Des.encryptBlock (Des.ofBytes key.bytes) (Des.ofBytes bytes)) := by
  have hblocks : blocksOf bytes = [Des.ofBytes bytes] := by
    have happend := Des.blocksOf_append h []
    rwa [List.append_nil] at happend
  have hzero : Des.ofBytes emptyBlock = 0#64 := rfl
  rw [chained, hblocks, Chaining.encrypt, Chaining.encrypt, hzero, BitVec.xor_zero,
    Des.bytesOf_cons, Des.bytesOf_nil, List.append_nil]

/-- For each key in the table of weak keys there is one in the table, and for the four weak ones it is
the key itself, such that encryption of a block under the first and then under the second gives the
block back, however it is cut into segments. -/
theorem weak_keys_undo_each_other (weak : List UInt8) (hweak : Des.isWeak weak = true) :
    ∃ other, Des.isWeak other = true ∧ (other = weak ↔ weak ∈ Des.weakKeys) ∧
      ∀ (e e' : Enctype) (m : Message), m.dataBytes.length = 8 →
        let once := Provider.des.encrypt ⟨e, weak⟩ none m
        let twice := Provider.des.encrypt ⟨e', other⟩ none once.message
        once.answer = .ok () ∧ twice.answer = .ok () ∧ twice.message = m := by
  refine ⟨Des.partner weak, Des.isWeak_partner hweak, Des.partner_eq_iff hweak, ?_⟩
  intro e e' m hm once twice
  have hnone : ∀ b ∈ (none : Option (List UInt8)), b.length = 8 := by simp
  have h : Accepted ⟨e, weak⟩ none m :=
    .of_lengths (Des.length_of_isWeak hweak) hnone (congrArg (· % 8) hm)
  have hdata : once.message.dataBytes = chained .encrypt ⟨e, weak⟩ emptyBlock m.dataBytes :=
    h.dataBytes_transform .encrypt
  rw [chained_encrypt_block _ hm] at hdata
  have hlength : once.message.dataBytes.length = blockSize := by
    rw [hdata, Des.length_toBytes]
  have h' : Accepted ⟨e', Des.partner weak⟩ none once.message :=
    .of_lengths (Des.length_of_isWeak (Des.isWeak_partner hweak)) hnone
      (congrArg (· % 8) hlength)
  have hback : twice.message.dataBytes =
      chained .encrypt ⟨e', Des.partner weak⟩ emptyBlock once.message.dataBytes :=
    h'.dataBytes_transform .encrypt
  refine ⟨h.answer_transform .encrypt, h'.answer_transform .encrypt, ?_⟩
  apply Message.eq_of_masked_eq
  · exact (h'.masked_transform .encrypt).trans (h.masked_transform .encrypt)
  · rw [hback, chained_encrypt_block _ hlength, hdata, Des.ofBytes_toBytes,
      Des.encryptBlock_partner hweak, Des.toBytes_ofBytes hm]

/-- A semi-weak key, whose partner is another one, and a block in two pieces. -/
theorem weak_keys_undo_each_other_in_pairs :
    let weak : List UInt8 := [0x01, 0x1F, 0x01, 0x1F, 0x01, 0x0E, 0x01, 0x0E]
    let m : Message := [⟨.data, [1, 2, 3]⟩, ⟨.signOnly, [9]⟩, ⟨.data, [4, 5, 6, 7, 8]⟩]
    Des.isWeak weak = true ∧ m.dataBytes.length = 8 ∧
      ∃ other, Des.isWeak other = true ∧ other ≠ weak ∧
        (Provider.des.encrypt ⟨.desCbcCrc, other⟩ none
          (Provider.des.encrypt ⟨.desCbcCrc, weak⟩ none m).message).message = m := by
  intro weak m
  have hweak : Des.isWeak weak = true := by decide
  have hm : m.dataBytes.length = 8 := by decide
  have hpair : weak ∉ Des.weakKeys := by decide
  rcases weak_keys_undo_each_other weak hweak with ⟨other, hother, hsame, hback⟩
  refine ⟨hweak, hm, other, hother, ?_, (hback .desCbcCrc .desCbcCrc m hm).2.2⟩
  intro heq
  exact hpair (hsame.1 heq)

end DesCbc
end Kerberos
