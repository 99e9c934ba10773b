import Kerberos.Proofs.Cipher.RoundTrip
import Kerberos.Proofs.Cipher.StreamRoundTrip

/-!
# Messages in one segment

A byte string that is transformed as a single segment stays one. Both ciphers take back what they
have made of it, from the same state, and the block cipher leaves the same chaining value in both
directions.
-/

namespace Kerberos

/-- What a transform makes of bytes in one segment: other bytes, and a state with a chaining value
or without one. -/
structure Provider.Gives (p : Provider) (d : Direction) (key : Key) (state : CipherState)
    (bytes result : List UInt8) (chain : Option (List UInt8)) : Prop where
  answer_eq : (p.transform d key (some state) [⟨.data, bytes⟩]).answer = .ok ()
  dataBytes_eq :
    Message.dataBytes (p.transform d key (some state) [⟨.data, bytes⟩]).message = result
  chain_eq : (p.transform d key (some state) [⟨.data, bytes⟩]).state.bind CipherState.asIv? = chain

theorem dataBytes_single (bytes : List UInt8) : Message.dataBytes [⟨.data, bytes⟩] = bytes := by
  simp [Message.dataBytes, Role.isEncrypted]

/-- What is given can be read off the result of the transform. -/
theorem Provider.Gives.of_eq {p : Provider} {d : Direction} {key : Key} {state : CipherState}
    {bytes result : List UInt8} {state' : Option CipherState}
    (h : p.transform d key (some state) [⟨.data, bytes⟩] =
      ⟨.ok (), [⟨.data, result⟩], state'⟩) :
    p.Gives d key state bytes result (state'.bind CipherState.asIv?) := by
  refine ⟨?_, ?_, ?_⟩
  · rw [h]
  · rw [h]
    exact dataBytes_single result
  · rw [h]

/-- Byte strings of whole blocks are taken back, with or without anything in them. -/
theorem DesCbc.exists_gives (key : Key) {iv bytes : List UInt8} (hkey : key.length = 8)
    (hiv : iv.length = 8) (hbytes : bytes.length % 8 = 0) :
    ∃ result chain, chain.length = 8 ∧
      Provider.des.Gives .encrypt key (.iv iv) bytes result (some chain) ∧
      Provider.des.Gives .decrypt key (.iv iv) result bytes (some chain) := by
  have h : Accepted key (some iv) [⟨.data, bytes⟩] := by
    refine ⟨hkey, ?_, ?_⟩
    · rintro b ⟨⟩
      exact hiv
    · rw [← Message.length_dataBytes, dataBytes_single]
      exact hbytes
  let sent := transform .encrypt key (some (.iv iv)) [⟨.data, bytes⟩]
  let result := sent.message.dataBytes
  have hsame : Message.dataBytes [⟨.data, result⟩] = result := dataBytes_single result
  -- the last block of what was sent is the chaining value at both ends
  have hchain : sent.state.bind CipherState.asIv? = some (Des.lastBlock iv result) :=
    congrArg (Option.bind · CipherState.asIv?) (h.state_transform .encrypt)
  have hwhole : result.length % 8 = 0 := by
    rw [Message.length_dataBytes]
    exact (congrArg (· % 8) (h.dataLength_transform .encrypt)).trans h.whole_blocks
  refine ⟨result, Des.lastBlock iv result, Des.length_lastBlock hiv hwhole, ?_, ?_⟩
  · exact ⟨h.answer_transform .encrypt, rfl, hchain⟩
  · refine ⟨(h.of_dataBytes_eq hsame).answer_transform .decrypt, ?_, ?_⟩
    · exact (h.dataBytes_decrypt hsame).trans (dataBytes_single bytes)
    · exact (congrArg (Option.bind · CipherState.asIv?) (h.state_decrypt hsame)).trans hchain

/-- The message stays one segment, although an empty one is not processed. -/
theorem ArcfourStream.exists_mixSegments_single (g : Arcfour.Generator) (bytes : List UInt8) :
    ∃ result, (mixSegments g [⟨.data, bytes⟩]).1 = [⟨.data, result⟩] := by
  cases hcontinues : continues ⟨.data, bytes⟩ with
  | false => exact ⟨bytes, congrArg Prod.fst (mixSegments_of_empty hcontinues g [])⟩
  | true => exact ⟨g.mix bytes, congrArg Prod.fst (mixSegments_of_encrypted hcontinues rfl g [])⟩

/-- All byte strings are taken back, and no chaining value is left. -/
theorem ArcfourStream.exists_gives (key : Key) (hkey : key.length = 16) (bytes : List UInt8) :
    ∃ result, Provider.arcfour.Gives .encrypt key freshState bytes result none ∧
      Provider.arcfour.Gives .decrypt key freshState result bytes none := by
  rcases exists_mixSegments_single (generator key .uninitialized) bytes with ⟨result, hresult⟩
  have hsent := transform_of_key hkey .uninitialized [⟨.data, bytes⟩]
  rw [hresult] at hsent
  have hback := transform_transform hkey hkey (Eq.refl (generator key .uninitialized))
    [⟨.data, bytes⟩]
  rw [hsent] at hback
  refine ⟨result, ?_, ?_⟩
  · exact Provider.Gives.of_eq (p := .arcfour) (d := .encrypt) hsent
  · exact Provider.Gives.of_eq (p := .arcfour) (d := .decrypt) hback

end Kerberos
