import Kerberos.Proofs.Arcfour.Keystream
import Kerberos.Proofs.Cipher.Session
import Kerberos.Proofs.Message.Flat

/-!
# One keystream for a whole session

The calls of a session with a stream state mix their data with consecutive pieces of one keystream,
that of the first key that was accepted. Refused calls leave no trace, and of later keys only the
length matters.
-/

namespace Kerberos
namespace ArcfourStream

open Arcfour (Generator)

/-! ## One message -/

/-- The encrypted bytes in front of the first empty segment. -/
def processedBytes (m : Message) : List UInt8 :=
  Message.dataBytes (reach m)

theorem reach_cons_of_empty {s : Segment} (h : continues s = false) (rest : Message) :
    reach (s :: rest) = [] := by
  simp [reach, h]

theorem reach_cons_of_continues {s : Segment} (h : continues s = true) (rest : Message) :
    reach (s :: rest) = s :: reach rest := by
  simp [reach, h]

theorem processedBytes_cons_of_empty {s : Segment} (h : continues s = false) (rest : Message) :
    processedBytes (s :: rest) = [] := by
  simp [processedBytes, reach_cons_of_empty h, Message.dataBytes_nil]

theorem processedBytes_cons_of_continues {s : Segment} (h : continues s = true)
    (rest : Message) :
    processedBytes (s :: rest) =
      (if s.role.isEncrypted then s.bytes else []) ++ processedBytes rest := by
  simp [processedBytes, reach_cons_of_continues h, Message.dataBytes_cons]

theorem mixSegments_of_empty {s : Segment} (h : continues s = false) (g : Generator)
    (rest : Message) : mixSegments g (s :: rest) = (s :: rest, g) := by
  simp [mixSegments, h]

theorem mixSegments_of_not_encrypted {s : Segment} (hcontinues : continues s = true)
    (henc : s.role.isEncrypted = false) (g : Generator) (rest : Message) :
    mixSegments g (s :: rest) = (s :: (mixSegments g rest).1, (mixSegments g rest).2) := by
  simp [mixSegments, hcontinues, henc]

theorem mixSegments_of_encrypted {s : Segment} (hcontinues : continues s = true)
    (henc : s.role.isEncrypted = true) (g : Generator) (rest : Message) :
    mixSegments g (s :: rest) =
      ({ s with bytes := g.mix s.bytes } ::
        (mixSegments (Generator.advance s.bytes.length g) rest).1,
        (mixSegments (Generator.advance s.bytes.length g) rest).2) := by
  simp [mixSegments, hcontinues, henc, Generator.apply_eq]

/-- Mixing keeps the length of a segment, so it ends the processing only where it did before. -/
theorem continues_mix (g : Generator) (s : Segment) :
    continues { s with bytes := g.mix s.bytes } = continues s := by
  have hlength := Generator.length_mix g s.bytes
  cases hbytes : s.bytes <;> cases hmixed : g.mix s.bytes <;>
    simp_all [continues]

/-- What mixing the segments of a message with a keystream leaves: the processed bytes mixed, the
generator behind them, and all else as it was. -/
structure Mixed (g : Generator) (m : Message) (result : Message × Generator) : Prop where
  processed_eq : processedBytes result.1 = g.mix (processedBytes m)
  generator_eq : result.2 = Generator.advance (processedBytes m).length g
  masked_eq : result.1.masked = m.masked
  rest_eq : result.1.drop (reach m).length = m.drop (reach m).length

namespace Mixed

variable {g : Generator} {s : Segment} {rest : Message}

theorem of_empty (h : continues s = false) : Mixed g (s :: rest) (s :: rest, g) := by
  have hnone : processedBytes (s :: rest) = [] := processedBytes_cons_of_empty h rest
  refine ⟨?_, ?_, rfl, rfl⟩
  · simp [hnone, Generator.mix_nil]
  · simp [hnone, Generator.advance]

/-- A segment that is not encrypted is passed over. -/
theorem cons_of_not_encrypted {result : Message × Generator} (hcontinues : continues s = true)
    (henc : s.role.isEncrypted = false) (h : Mixed g rest result) :
    Mixed g (s :: rest) (s :: result.1, result.2) := by
  have hprocessed : ∀ m : Message, processedBytes (s :: m) = processedBytes m := by
    intro m
    simp [processedBytes_cons_of_continues hcontinues, henc]
  refine ⟨?_, ?_, ?_, ?_⟩
  · simp only [hprocessed, h.processed_eq]
  · simp only [hprocessed, h.generator_eq]
  · simp only [Message.masked_cons, h.masked_eq]
  · simp only [reach_cons_of_continues hcontinues, List.length_cons, List.drop_succ_cons,
      h.rest_eq]

/-- A data segment is mixed, and the generator goes on behind it. -/
theorem cons_of_encrypted {result : Message × Generator} (hcontinues : continues s = true)
    (henc : s.role.isEncrypted = true)
    (h : Mixed (Generator.advance s.bytes.length g) rest result) :
    Mixed g (s :: rest) ({ s with bytes := g.mix s.bytes } :: result.1, result.2) := by
  have hcontinues' : continues { s with bytes := g.mix s.bytes } = true :=
    (continues_mix g s).trans hcontinues
  have hprocessed : processedBytes (s :: rest) = s.bytes ++ processedBytes rest := by
    simp [processedBytes_cons_of_continues hcontinues, henc]
  have hprocessed' : processedBytes ({ s with bytes := g.mix s.bytes } :: result.1) =
      g.mix s.bytes ++ processedBytes result.1 := by
    simp [processedBytes_cons_of_continues hcontinues', henc]
  have hmasked : Segment.masked { s with bytes := g.mix s.bytes } = s.masked := by
    simp [Segment.masked, henc, Generator.length_mix]
  refine ⟨?_, ?_, ?_, ?_⟩
  · calc
      processedBytes ({ s with bytes := g.mix s.bytes } :: result.1)
          = g.mix s.bytes ++
              (Generator.advance s.bytes.length g).mix (processedBytes rest) := by
            rw [hprocessed', h.processed_eq]
      _ = g.mix (s.bytes ++ processedBytes rest) := (Generator.mix_append g _ _).symm
      _ = g.mix (processedBytes (s :: rest)) := by rw [hprocessed]
  · rw [h.generator_eq, hprocessed, List.length_append, Generator.advance_add]
  · simp only [Message.masked_cons, hmasked, h.masked_eq]
  · simp only [reach_cons_of_continues hcontinues, List.length_cons, List.drop_succ_cons,
      h.rest_eq]

end Mixed

theorem mixSegments_mixed (g : Generator) (m : Message) : Mixed g m (mixSegments g m) := by
  induction m generalizing g with
  | nil => exact ⟨rfl, rfl, rfl, rfl⟩
  | cons s rest ih =>
    cases hcontinues : continues s with
    | false =>
      rw [mixSegments_of_empty hcontinues]
      exact .of_empty hcontinues
    | true =>
      cases henc : s.role.isEncrypted with
      | false =>
        rw [mixSegments_of_not_encrypted hcontinues henc]
        exact .cons_of_not_encrypted hcontinues henc (ih g)
      | true =>
        rw [mixSegments_of_encrypted hcontinues henc]
        exact .cons_of_encrypted hcontinues henc (ih (Generator.advance s.bytes.length g))

/-! ## One call -/

theorem transform_of_wrong_key {key : Key} (h : key.length ≠ 16) (state : Option CipherState)
    (m : Message) : transform key state m = .refused .badKeySize m state := by
  simp [transform, Arcfour.keySize, h]

theorem transform_of_key {key : Key} (h : key.length = 16) (stream : StreamState) (m : Message) :
    transform key (some (.arcfour stream)) m =
      ⟨.ok (), (mixSegments (generator key stream) m).1,
        some (.arcfour (.active (mixSegments (generator key stream) m).2))⟩ := by
  simp [transform, Arcfour.keySize, h]

theorem transform_none {key : Key} (h : key.length = 16) (m : Message) :
    transform key none m =
      ⟨.ok (), (mixSegments (generator key .uninitialized) m).1, none⟩ := by
  simp [transform, Arcfour.keySize, h]

theorem state_transform_arcfour {key : Key} {state : Option CipherState} {m : Message}
    (h : ∃ stream, state = some (.arcfour stream)) :
    ∃ stream, (transform key state m).state = some (.arcfour stream) := by
  rcases h with ⟨stream, rfl⟩
  by_cases hkey : key.length = 16
  · refine ⟨.active (mixSegments (generator key stream) m).2, ?_⟩
    rw [transform_of_key hkey]
  · refine ⟨stream, ?_⟩
    rw [transform_of_wrong_key hkey]
    rfl

/-! ## Sessions -/

theorem before_of_mem_session {calls : List Call} {e : Exchange}
    (h : e ∈ Provider.arcfour.session (some freshState) calls) :
    ∃ stream, e.before = some (.arcfour stream) := by
  refine Provider.before_of_mem_session (P := fun state => ∃ stream, state = some (.arcfour stream))
    ?_ ⟨.uninitialized, rfl⟩ h
  intro d key state m hstate
  exact state_transform_arcfour hstate

end ArcfourStream
end Kerberos
