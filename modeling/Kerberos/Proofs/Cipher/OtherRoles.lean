import Kerberos.Proofs.Cipher.Refusals

/-!
# What other segments have to do with it

A cipher may touch data segments only, and two messages with the same data segments should be the
same to it, whatever segments of other roles stand between them. To the block cipher they are. To
the stream cipher they are as long as it stops at the same place, for an empty segment of any role
ends the processing: `other_roles_only_end_streams`. An empty header in front of the data is enough
for a call to succeed and to leave all data as it was (`empty_header_ends_stream`).
-/

namespace Kerberos

/-! ## The data segments of a message -/

namespace Message

/-- The segments that a cipher may change. -/
def dataSegments (m : Message) : Message :=
  m.filter (·.role.isEncrypted)

theorem dataSegments_cons_of_encrypted {s : Segment} (h : s.role.isEncrypted = true)
    (rest : Message) : dataSegments (s :: rest) = s :: rest.dataSegments :=
  List.filter_cons_of_pos h

theorem dataSegments_cons_of_not_encrypted {s : Segment} (h : s.role.isEncrypted = false)
    (rest : Message) : dataSegments (s :: rest) = rest.dataSegments :=
  List.filter_cons_of_neg (by simp [h])

theorem dataBytes_dataSegments (m : Message) : m.dataSegments.dataBytes = m.dataBytes := by
  simp [dataBytes, dataSegments]

theorem masked_dataSegments (m : Message) : m.dataSegments.masked = m.masked.dataSegments := by
  rw [dataSegments, dataSegments, masked, masked, List.filter_map]
  congr 1
  apply List.filter_congr
  intro s _
  rw [Function.comp_apply, Segment.role_masked]

variable {m m' result result' : Message}

theorem dataBytes_eq_of_dataSegments_eq (h : m'.dataSegments = m.dataSegments) :
    m'.dataBytes = m.dataBytes := by
  rw [← dataBytes_dataSegments, h, dataBytes_dataSegments]

/-- The data segments that a cipher leaves are determined by those it was given and by the bytes in
them. -/
theorem dataSegments_eq_of_masked_eq (h : m'.dataSegments = m.dataSegments)
    (hmasked' : result'.masked = m'.masked) (hmasked : result.masked = m.masked)
    (hdata : result'.dataBytes = result.dataBytes) :
    result'.dataSegments = result.dataSegments := by
  apply eq_of_masked_eq
  · calc
      result'.dataSegments.masked = m'.dataSegments.masked := by
            rw [masked_dataSegments, hmasked', masked_dataSegments]
      _ = m.dataSegments.masked := by rw [h]
      _ = result.dataSegments.masked := by
            rw [masked_dataSegments, ← hmasked, masked_dataSegments]
  · rw [dataBytes_dataSegments, dataBytes_dataSegments, hdata]

end Message

open Message (dataSegments dataSegments_cons_of_encrypted dataSegments_cons_of_not_encrypted)

/-! ## Answers -/

namespace Provider

variable {p : Provider} {key : Key} {state : Option CipherState} {m m' : Message} {e : Error}

theorem Refuses.of_dataBytes_eq (h : Refuses p key state m e)
    (hdata : m'.dataBytes = m.dataBytes) : Refuses p key state m' e := by
  cases h with
  | camellia128 => exact .camellia128 key state m'
  | camellia256 => exact .camellia256 key state m'
  | desState key stream m => exact .desState key stream m'
  | desKey hkey iv m => exact .desKey hkey iv m'
  | desData hkey hm iv => exact .desData hkey (hdata ▸ hm) iv
  | desChain hkey hiv m => exact .desChain hkey hiv m'
  | arcfourKey hkey state m => exact .arcfourKey hkey state m'
  | arcfourState hkey iv m => exact .arcfourState hkey iv m'

theorem Accepts.of_dataBytes_eq (h : Accepts p key state m)
    (hdata : m'.dataBytes = m.dataBytes) : Accepts p key state m' := by
  cases h with
  | des hkey hiv hm => exact .des hkey hiv (hdata ▸ hm)
  | arcfourFresh hkey m => exact .arcfourFresh hkey m'
  | arcfour hkey stream m => exact .arcfour hkey stream m'

/-- The answer of a call depends on the data of the message only. -/
theorem answer_eq_of_dataBytes_eq (d : Direction) (key : Key) (state : Option CipherState)
    (hdata : m'.dataBytes = m.dataBytes) :
    (p.transform d key state m').answer = (p.transform d key state m).answer := by
  rcases accepts_or_refuses p key state m with haccepts | ⟨e, hrefuses⟩
  · rw [(answer_eq_ok_iff d).2 haccepts,
      (answer_eq_ok_iff d).2 (haccepts.of_dataBytes_eq hdata)]
  · rw [(answer_eq_error_iff d).2 hrefuses,
      (answer_eq_error_iff d).2 (hrefuses.of_dataBytes_eq hdata)]

/-- Whether two calls leave the same data segments and the same state. -/
def SameLeft (t t' : Transformed) : Prop :=
  t'.message.dataSegments = t.message.dataSegments ∧ t'.state = t.state

theorem Refuses.sameLeft (h : Refuses p key state m e)
    (hsame : m'.dataSegments = m.dataSegments) (d : Direction) :
    SameLeft (p.transform d key state m) (p.transform d key state m') := by
  have hdata : m'.dataBytes = m.dataBytes := Message.dataBytes_eq_of_dataSegments_eq hsame
  rw [h.transform_eq d, (h.of_dataBytes_eq hdata).transform_eq d]
  exact ⟨hsame, rfl⟩

end Provider

open Provider (SameLeft)

/-! ## The block cipher -/

theorem DesCbc.Accepted.sameLeft {key : Key} {iv : Option (List UInt8)} {m m' : Message}
    (h : Accepted key iv m) (hsame : m'.dataSegments = m.dataSegments) (d : Direction) :
    SameLeft (transform d key (iv.map .iv) m) (transform d key (iv.map .iv) m') := by
  have hdata : m'.dataBytes = m.dataBytes := Message.dataBytes_eq_of_dataSegments_eq hsame
  have h' : Accepted key iv m' := by
    apply h.of_dataLength_eq
    rw [← Message.length_dataBytes, hdata, Message.length_dataBytes]
  have hresult : (transform d key (iv.map .iv) m').message.dataBytes =
      (transform d key (iv.map .iv) m).message.dataBytes := by
    rw [h'.dataBytes_transform d, h.dataBytes_transform d, hdata]
  constructor
  · exact Message.dataSegments_eq_of_masked_eq hsame (h'.masked_transform d)
      (h.masked_transform d) hresult
  · rw [h'.state_transform d, h.state_transform d, hdata, hresult]

/-! ## The stream cipher -/

namespace ArcfourStream

open Arcfour (Generator)

/-- The data segments in front of the first empty segment. -/
def reachedSegments (m : Message) : Message :=
  (reach m).dataSegments

theorem reachedSegments_cons_of_empty {s : Segment} (h : continues s = false) (rest : Message) :
    reachedSegments (s :: rest) = [] := by
  rw [reachedSegments, reach_cons_of_empty h]
  rfl

theorem reachedSegments_cons_of_not_encrypted {s : Segment} (hcontinues : continues s = true)
    (henc : s.role.isEncrypted = false) (rest : Message) :
    reachedSegments (s :: rest) = reachedSegments rest := by
  rw [reachedSegments, reach_cons_of_continues hcontinues,
    dataSegments_cons_of_not_encrypted henc, reachedSegments]

theorem reachedSegments_cons_of_encrypted {s : Segment} (hcontinues : continues s = true)
    (henc : s.role.isEncrypted = true) (rest : Message) :
    reachedSegments (s :: rest) = s :: reachedSegments rest := by
  rw [reachedSegments, reach_cons_of_continues hcontinues, dataSegments_cons_of_encrypted henc,
    reachedSegments]

/-- The data segments that are reached are the first ones. -/
theorem reachedSegments_eq_take (m : Message) :
    reachedSegments m = m.dataSegments.take (reachedSegments m).length := by
  have hbegins : reach m <+: m := List.takeWhile_prefix continues
  exact List.prefix_iff_eq_take.1 (hbegins.filter _)

/-- What mixing does to the data segments can be said without the other ones: those that are reached
are mixed, and the rest stays. -/
theorem dataSegments_mixSegments (g : Generator) (m : Message) :
    (mixSegments g m).1.dataSegments =
        (mixSegments g (reachedSegments m)).1 ++
          m.dataSegments.drop (reachedSegments m).length ∧
      (mixSegments g m).2 = (mixSegments g (reachedSegments m)).2 := by
  induction m generalizing g with
  | nil => exact ⟨rfl, rfl⟩
  | cons s rest ih =>
    cases hcontinues : continues s with
    | false =>
      rw [mixSegments_of_empty hcontinues, reachedSegments_cons_of_empty hcontinues]
      exact ⟨rfl, rfl⟩
    | true =>
      cases henc : s.role.isEncrypted with
      | false =>
        rw [mixSegments_of_not_encrypted hcontinues henc,
          reachedSegments_cons_of_not_encrypted hcontinues henc,
          dataSegments_cons_of_not_encrypted henc, dataSegments_cons_of_not_encrypted henc]
        exact ih g
      | true =>
        -- the role of a mixed segment is what it was
        have hmixed (rest : Message) : dataSegments ({ s with bytes := g.mix s.bytes } :: rest) =
            { s with bytes := g.mix s.bytes } :: rest.dataSegments :=
          dataSegments_cons_of_encrypted (s := { s with bytes := g.mix s.bytes }) henc rest
        rcases ih (Generator.advance s.bytes.length g) with ⟨hdata, hgenerator⟩
        rw [reachedSegments_cons_of_encrypted hcontinues henc,
          mixSegments_of_encrypted hcontinues henc, mixSegments_of_encrypted hcontinues henc,
          hmixed, dataSegments_cons_of_encrypted henc, hdata, hgenerator]
        exact ⟨rfl, rfl⟩

variable {m m' : Message}

theorem reachedSegments_eq (hsame : m'.dataSegments = m.dataSegments)
    (hlength : (reachedSegments m').length = (reachedSegments m).length) :
    reachedSegments m' = reachedSegments m := by
  rw [reachedSegments_eq_take m', hsame, hlength, ← reachedSegments_eq_take m]

theorem mixSegments_congr (hsame : m'.dataSegments = m.dataSegments)
    (hlength : (reachedSegments m').length = (reachedSegments m).length) (g : Generator) :
    (mixSegments g m').1.dataSegments = (mixSegments g m).1.dataSegments ∧
      (mixSegments g m').2 = (mixSegments g m).2 := by
  rcases dataSegments_mixSegments g m with ⟨hdata, hgenerator⟩
  rcases dataSegments_mixSegments g m' with ⟨hdata', hgenerator'⟩
  rw [hdata, hdata', hgenerator, hgenerator', hsame, reachedSegments_eq hsame hlength]
  exact ⟨rfl, rfl⟩

/-- Where only data segments are empty, these alone decide how many of them are reached. -/
theorem reachedSegments_of_others_not_empty
    (h : ∀ s ∈ m, s.role.isEncrypted = false → s.bytes ≠ []) :
    reachedSegments m = reach m.dataSegments := by
  induction m with
  | nil => rfl
  | cons s rest ih =>
    have hrest := ih fun s' hs' => h s' (List.mem_cons_of_mem s hs')
    cases henc : s.role.isEncrypted with
    | false =>
      have hcontinues : continues s = true := by
        simp [continues, h s List.mem_cons_self henc]
      rw [reachedSegments_cons_of_not_encrypted hcontinues henc,
        dataSegments_cons_of_not_encrypted henc, hrest]
    | true =>
      rw [dataSegments_cons_of_encrypted henc]
      cases hcontinues : continues s with
      | false => rw [reachedSegments_cons_of_empty hcontinues, reach_cons_of_empty hcontinues]
      | true =>
        rw [reachedSegments_cons_of_encrypted hcontinues henc, reach_cons_of_continues hcontinues,
          hrest]

theorem length_reachedSegments_eq (hsame : m'.dataSegments = m.dataSegments)
    (h : ∀ s ∈ m ++ m', s.role.isEncrypted = false → s.bytes ≠ []) :
    (reachedSegments m').length = (reachedSegments m).length := by
  rw [reachedSegments_of_others_not_empty fun s hs => h s (List.mem_append_right m hs),
    reachedSegments_of_others_not_empty fun s hs => h s (List.mem_append_left m' hs), hsame]

theorem sameLeft_of_key {key : Key} (hkey : key.length = 16) (stream : StreamState)
    (hsame : m'.dataSegments = m.dataSegments)
    (hlength : (reachedSegments m').length = (reachedSegments m).length) :
    SameLeft (transform key (some (.arcfour stream)) m)
      (transform key (some (.arcfour stream)) m') := by
  rcases mixSegments_congr hsame hlength (generator key stream) with ⟨hdata, hgenerator⟩
  rw [transform_of_key hkey, transform_of_key hkey, SameLeft, hgenerator]
  exact ⟨hdata, rfl⟩

theorem sameLeft_none {key : Key} (hkey : key.length = 16)
    (hsame : m'.dataSegments = m.dataSegments)
    (hlength : (reachedSegments m').length = (reachedSegments m).length) :
    SameLeft (transform key none m) (transform key none m') := by
  rw [transform_none hkey, transform_none hkey]
  exact ⟨(mixSegments_congr hsame hlength (generator key .uninitialized)).1, rfl⟩

end ArcfourStream

/-! ## Both ciphers -/

open ArcfourStream (freshState reachedSegments)

namespace Provider

theorem Accepts.sameLeft {p : Provider} {key : Key} {state : Option CipherState}
    {m m' : Message} (h : Accepts p key state m) (hsame : m'.dataSegments = m.dataSegments)
    (hstop : p = .arcfour → (reachedSegments m').length = (reachedSegments m).length)
    (d : Direction) : SameLeft (p.transform d key state m) (p.transform d key state m') := by
  cases h with
  | des hkey hiv hm => exact (DesCbc.Accepted.of_lengths hkey hiv hm).sameLeft hsame d
  | arcfourFresh hkey m => exact ArcfourStream.sameLeft_none hkey hsame (hstop rfl)
  | arcfour hkey stream m => exact ArcfourStream.sameLeft_of_key hkey stream hsame (hstop rfl)

/-- Two messages with the same data segments get the same answer. What is left of their data
segments and of the state is the same, too, unless it is a successful call of the stream cipher and
the first empty segments of the two messages, which may have any role, stand behind different
numbers of data segments. They cannot if no segment of another role is empty. -/
theorem other_roles_only_end_streams (p : Provider) (d : Direction) (key : Key)
    (state : Option CipherState) (m m' : Message) (hsame : m'.dataSegments = m.dataSegments) :
    let t := p.transform d key state m
    let t' := p.transform d key state m'
    t'.answer = t.answer ∧
      ((p = .arcfour → t.answer = .ok () →
          (reachedSegments m').length = (reachedSegments m).length) →
        t'.message.dataSegments = t.message.dataSegments ∧ t'.state = t.state) ∧
      ((∀ s ∈ m ++ m', s.role.isEncrypted = false → s.bytes ≠ []) →
        (reachedSegments m').length = (reachedSegments m).length) := by
  intro t t'
  refine ⟨answer_eq_of_dataBytes_eq d key state (Message.dataBytes_eq_of_dataSegments_eq hsame), ?_,
    ArcfourStream.length_reachedSegments_eq hsame⟩
  intro hstop
  rcases accepts_or_refuses p key state m with haccepts | ⟨e, hrefuses⟩
  · exact haccepts.sameLeft hsame (fun hp => hstop hp ((answer_eq_ok_iff d).2 haccepts)) d
  · exact hrefuses.sameLeft hsame d

/-- Both messages end with the segment `3`, which is not reached. -/
theorem other_roles_only_end_streams_same_stop :
    let key : Key := ⟨.arcfourHmac, List.replicate 16 7⟩
    let m : Message := [⟨.data, [1, 2]⟩, ⟨.data, []⟩, ⟨.data, [3]⟩]
    let m' : Message :=
      [⟨.header, [9]⟩, ⟨.data, [1, 2]⟩, ⟨.signOnly, []⟩, ⟨.data, []⟩, ⟨.data, [3]⟩]
    let t := Provider.arcfour.encrypt key (some freshState) m
    let t' := Provider.arcfour.encrypt key (some freshState) m'
    m'.dataSegments = m.dataSegments ∧
      (reachedSegments m').length = (reachedSegments m).length ∧
      t'.message.dataSegments = t.message.dataSegments ∧ t'.state = t.state := by
  intro key m m' t t'
  have hsame : m'.dataSegments = m.dataSegments := by decide
  have hstop : (reachedSegments m').length = (reachedSegments m).length := by decide
  have hleft := other_roles_only_end_streams .arcfour .encrypt key (some freshState) m m' hsame
  exact ⟨hsame, hstop, hleft.2.1 fun _ _ => hstop⟩

/-- An empty header in front of the data: the call succeeds, and all data is as it was. -/
theorem empty_header_ends_stream :
    let key : Key := ⟨.arcfourHmac, [0, 1, 2, 3, 4, 5, 6, 7, 8, 9, 10, 11, 12, 13, 14, 15]⟩
    let m : Message := [⟨.data, [97, 98, 99]⟩]
    let m' : Message := [⟨.header, []⟩, ⟨.data, [97, 98, 99]⟩]
    let t := Provider.arcfour.encrypt key (some freshState) m
    let t' := Provider.arcfour.encrypt key (some freshState) m'
    m'.dataSegments = m.dataSegments ∧ t.answer = .ok () ∧ t'.answer = .ok () ∧
      t'.message = m' ∧
      ¬(t'.message.dataSegments = t.message.dataSegments ∧ t'.state = t.state) := by
  intro key m m' t t'
  have hkey : key.length = 16 := rfl
  have ht : t = _ := ArcfourStream.transform_of_key hkey .uninitialized m
  have ht' : t' = _ := ArcfourStream.transform_of_key hkey .uninitialized m'
  have hunmixed : t'.message = m' := by rw [ht']; rfl
  -- the first index of a generator counts the bytes that it has made
  let g := ArcfourStream.generator key .uninitialized
  have hindex : (Arcfour.Generator.advance 3 g).i ≠ g.i := by decide
  have hstate : t'.state ≠ t.state := by
    rw [ht, ht']
    intro h
    simp only [Option.some.injEq, CipherState.arcfour.injEq, StreamState.active.injEq] at h
    exact hindex (congrArg Arcfour.Generator.i h.symm)
  exact ⟨rfl, by rw [ht], by rw [ht'], hunmixed, fun h => hstate h.2⟩

end Provider
end Kerberos
