import Kerberos.Proofs.Cipher.ArcfourStream
import Kerberos.Proofs.Cipher.ChainedSession

/-!
# What the ciphers refuse

A call of a cipher is refused for exactly one reason, or else it succeeds. `Refuses` and `Accepts`
list the two kinds of calls. A refused call leaves everything as it was; a successful one changes
encrypted bytes and the contents of the state, but neither the shape of the message nor the kind of
the state.
-/

namespace Kerberos

/-! ## States before and after a call -/

/-- The states that a successful call may leave in place of another one: a chaining value of the
same length, or a stream that has its key. -/
inductive CipherState.Follows : Option CipherState → Option CipherState → Prop
  | none : Follows none none
  | iv {before after : List UInt8} (hlength : after.length = before.length) :
      Follows (some (.iv before)) (some (.iv after))
  | arcfour (stream : StreamState) (g : Arcfour.Generator) :
      Follows (some (.arcfour stream)) (some (.arcfour (.active g)))

theorem CipherState.Follows.map_iv {iv : Option (List UInt8)} {f : List UInt8 → List UInt8}
    (h : ∀ b ∈ iv, (f b).length = b.length) :
    Follows (iv.map .iv) (iv.map fun b => .iv (f b)) := by
  cases iv with
  | none => exact .none
  | some bytes => exact .iv (h bytes rfl)

theorem CipherState.Follows.trans {first second third : Option CipherState}
    (h : Follows first second) (h' : Follows second third) : Follows first third := by
  cases h with
  | none => exact h'
  | iv hlength =>
    cases h' with
    | iv hlength' => exact .iv (hlength'.trans hlength)
  | arcfour stream g =>
    cases h' with
    | arcfour _ g' => exact .arcfour stream g'

namespace Provider

/-! ## The two kinds of calls -/

/-- The calls that are refused, with the error that says why. The block cipher asks for the kind of
the state before it looks at the key, the stream cipher afterwards. -/
inductive Refuses : Provider → Key → Option CipherState → Message → Error → Prop
  | camellia128 (key : Key) (state : Option CipherState) (m : Message) :
      Refuses .camellia128 key state m .internal
  | camellia256 (key : Key) (state : Option CipherState) (m : Message) :
      Refuses .camellia256 key state m .internal
  | desState (key : Key) (stream : StreamState) (m : Message) :
      Refuses .des key (some (.arcfour stream)) m .internal
  | desKey {key : Key} (hkey : key.length ≠ 8) (iv : Option (List UInt8)) (m : Message) :
      Refuses .des key (iv.map .iv) m .badKeySize
  | desData {key : Key} {m : Message} (hkey : key.length = 8)
      (hm : m.dataBytes.length % 8 ≠ 0) (iv : Option (List UInt8)) :
      Refuses .des key (iv.map .iv) m .badMessageSize
  | desChain {key : Key} {iv : List UInt8} (hkey : key.length = 8) (hiv : iv.length ≠ 8)
      (m : Message) : Refuses .des key (some (.iv iv)) m .badMessageSize
  | arcfourKey {key : Key} (hkey : key.length ≠ 16) (state : Option CipherState) (m : Message) :
      Refuses .arcfour key state m .badKeySize
  | arcfourState {key : Key} (hkey : key.length = 16) (iv : List UInt8) (m : Message) :
      Refuses .arcfour key (some (.iv iv)) m .internal

/-- The calls that succeed. -/
inductive Accepts : Provider → Key → Option CipherState → Message → Prop
  | des {key : Key} {iv : Option (List UInt8)} {m : Message} (hkey : key.length = 8)
      (hiv : ∀ b ∈ iv, b.length = 8) (hm : m.dataBytes.length % 8 = 0) :
      Accepts .des key (iv.map .iv) m
  | arcfourFresh {key : Key} (hkey : key.length = 16) (m : Message) :
      Accepts .arcfour key none m
  | arcfour {key : Key} (hkey : key.length = 16) (stream : StreamState) (m : Message) :
      Accepts .arcfour key (some (.arcfour stream)) m

variable {p : Provider} {key : Key} {state : Option CipherState} {m : Message} {e : Error}

theorem accepts_or_refuses_des (key : Key) (iv : Option (List UInt8)) (m : Message) :
    Accepts .des key (iv.map .iv) m ∨ ∃ e, Refuses .des key (iv.map .iv) m e := by
  -- the order of the checks: the key, the data, the chaining value
  by_cases hkey : key.length = 8
  · by_cases hm : m.dataBytes.length % 8 = 0
    · cases iv with
      | none => exact .inl (.des hkey (by simp) hm)
      | some bytes =>
        by_cases hiv : bytes.length = 8
        · exact .inl (.des hkey (by simpa using hiv) hm)
        · exact .inr ⟨.badMessageSize, .desChain hkey hiv m⟩
    · exact .inr ⟨.badMessageSize, .desData hkey hm iv⟩
  · exact .inr ⟨.badKeySize, .desKey hkey iv m⟩

theorem accepts_or_refuses_arcfour (key : Key) (state : Option CipherState) (m : Message) :
    Accepts .arcfour key state m ∨ ∃ e, Refuses .arcfour key state m e := by
  by_cases hkey : key.length = 16
  · cases state with
    | none => exact .inl (.arcfourFresh hkey m)
    | some state =>
      cases state with
      | iv bytes => exact .inr ⟨.internal, .arcfourState hkey bytes m⟩
      | arcfour stream => exact .inl (.arcfour hkey stream m)
  · exact .inr ⟨.badKeySize, .arcfourKey hkey state m⟩

/-- There is no third kind of call. -/
theorem accepts_or_refuses (p : Provider) (key : Key) (state : Option CipherState) (m : Message) :
    Accepts p key state m ∨ ∃ e, Refuses p key state m e := by
  cases p with
  | camellia128 => exact .inr ⟨.internal, .camellia128 key state m⟩
  | camellia256 => exact .inr ⟨.internal, .camellia256 key state m⟩
  | arcfour => exact accepts_or_refuses_arcfour key state m
  | des =>
    cases state with
    | none => exact accepts_or_refuses_des key none m
    | some state =>
      cases state with
      | iv bytes => exact accepts_or_refuses_des key (some bytes) m
      | arcfour stream => exact .inr ⟨.internal, .desState key stream m⟩

/-! ## Refused calls -/

/-- The checks come before the walk over the message, so a refused call has not begun it. -/
theorem Refuses.transform_eq (h : Refuses p key state m e) (d : Direction) :
    p.transform d key state m = .refused e m state := by
  cases h with
  | camellia128 => rfl
  | camellia256 => rfl
  | desState key stream m => rfl
  | desKey hkey iv m =>
    simp [transform, DesCbc.transform, DesCbc.chainingValue_map_iv, CipherInfo.accept, DesCbc.info,
      hkey]
  | desData hkey hm iv =>
    rw [Message.length_dataBytes] at hm
    simp [transform, DesCbc.transform, DesCbc.chainingValue_map_iv, CipherInfo.accept, DesCbc.info,
      Des.blockSize, hkey, hm]
  | desChain hkey hiv m =>
    simp [transform, DesCbc.transform, DesCbc.chainingValue, CipherInfo.accept, DesCbc.info,
      Des.blockSize, hkey, hiv]
  | arcfourKey hkey state m => exact ArcfourStream.transform_of_wrong_key hkey state m
  | arcfourState hkey iv m => simp [transform, ArcfourStream.transform, Arcfour.keySize, hkey]

/-! ## Successful calls -/

/-- What a successful call leaves. -/
structure Completed (state : Option CipherState) (m : Message) (t : Transformed) : Prop where
  answer_eq : t.answer = .ok ()
  masked_eq : t.message.masked = m.masked
  state_follows : CipherState.Follows state t.state

theorem completed_des {iv : Option (List UInt8)} (hkey : key.length = 8)
    (hiv : ∀ b ∈ iv, b.length = 8) (hm : m.dataBytes.length % 8 = 0) (d : Direction) :
    Completed (iv.map .iv) m (Provider.des.transform d key (iv.map .iv) m) := by
  have haccepted : DesCbc.Accepted key iv m := .of_lengths hkey hiv hm
  refine ⟨haccepted.answer_transform d, haccepted.masked_transform d, ?_⟩
  have hstate : (Provider.des.transform d key (iv.map .iv) m).state = _ :=
    haccepted.state_transform d
  rw [hstate, haccepted.dataBytes_transform d]
  apply CipherState.Follows.map_iv
  intro b hb
  -- the last encrypted block is as long as the chaining value that it replaces
  have hblock : b.length = Des.blockSize := hiv b hb
  rw [hblock]
  exact Des.length_lastBlock hblock (DesCbc.length_ciphertext_mod d key _ hm)

theorem completed_arcfour (hkey : key.length = 16) (stream : StreamState) (d : Direction) :
    Completed (some (.arcfour stream)) m
      (Provider.arcfour.transform d key (some (.arcfour stream)) m) := by
  have hmixed := ArcfourStream.mixSegments_mixed (ArcfourStream.generator key stream) m
  have hcall : Provider.arcfour.transform d key (some (.arcfour stream)) m = _ :=
    ArcfourStream.transform_of_key hkey stream m
  rw [hcall]
  exact ⟨rfl, hmixed.masked_eq, .arcfour stream _⟩

theorem completed_arcfour_fresh (hkey : key.length = 16) (d : Direction) :
    Completed none m (Provider.arcfour.transform d key none m) := by
  have hmixed := ArcfourStream.mixSegments_mixed (ArcfourStream.generator key .uninitialized) m
  have hcall : Provider.arcfour.transform d key none m = _ := ArcfourStream.transform_none hkey m
  rw [hcall]
  exact ⟨rfl, hmixed.masked_eq, .none⟩

theorem Accepts.completed (h : Accepts p key state m) (d : Direction) :
    Completed state m (p.transform d key state m) := by
  cases h with
  | des hkey hiv hm => exact completed_des hkey hiv hm d
  | arcfourFresh hkey m => exact completed_arcfour_fresh hkey d
  | arcfour hkey stream m => exact completed_arcfour hkey stream d

/-! ## The classification -/

theorem answer_eq_error_iff (d : Direction) :
    (p.transform d key state m).answer = .error e ↔ Refuses p key state m e := by
  constructor
  · intro hanswer
    rcases accepts_or_refuses p key state m with haccepts | ⟨e', hrefuses⟩
    · rw [(haccepts.completed d).answer_eq] at hanswer
      cases hanswer
    · -- a refusal has one reason only
      rw [hrefuses.transform_eq d] at hanswer
      cases hanswer
      exact hrefuses
  · intro hrefuses
    rw [hrefuses.transform_eq d]
    rfl

theorem answer_eq_ok_iff (d : Direction) :
    (p.transform d key state m).answer = .ok () ↔ Accepts p key state m := by
  constructor
  · intro hanswer
    rcases accepts_or_refuses p key state m with haccepts | ⟨e, hrefuses⟩
    · exact haccepts
    · rw [(answer_eq_error_iff d).2 hrefuses] at hanswer
      cases hanswer
  · intro haccepts
    exact (haccepts.completed d).answer_eq

/-- A session never changes the kind of its state, nor the length of a chaining value. -/
theorem before_eq_or_follows_of_mem_session {start : Option CipherState} {calls : List Call}
    {exchange : Exchange} (h : exchange ∈ p.session start calls) :
    exchange.before = start ∨ CipherState.Follows start exchange.before := by
  refine before_of_mem_session
    (P := fun state => state = start ∨ CipherState.Follows start state) ?_ (.inl rfl) h
  intro d key state m hstate
  -- a refused call passes on the state it was given
  rcases accepts_or_refuses p key state m with haccepts | ⟨e, hrefuses⟩
  · have hfollows := (haccepts.completed d).state_follows
    rcases hstate with rfl | hbefore
    · exact .inr hfollows
    · exact .inr (hbefore.trans hfollows)
  · rw [hrefuses.transform_eq d]
    exact hstate

theorem after_cbcMac_of_error {iv : Option (List UInt8)} {output : List UInt8}
    (h : (p.cbcMac key m iv output).answer = .error e) :
    (p.cbcMac key m iv output).after = output := by
  cases p with
  | camellia128 => rfl
  | camellia256 => rfl
  | arcfour => rfl
  | des =>
    simp only [cbcMac, DesCbc.mac] at h ⊢
    -- the code is written last, when nothing can fail any more
    cases haccept : DesCbc.info.accept key iv m with
    | error e' => rfl
    | ok hasData =>
      cases hasData with
      | false => rfl
      | true =>
        by_cases hlength : output.length = Des.blockSize
        · simp [haccept, hlength] at h
        · simp [hlength]

/-- Calls in both directions fail exactly for the reasons of `Refuses` and succeed exactly for the
calls of `Accepts`. A failure leaves all segments and the state as they were. A success leaves the
roles and lengths of all segments, all bytes that are not encrypted, and a state of the same kind.
An authentication code that cannot be made leaves its output alone. -/
theorem failures_classified_and_atomic (p : Provider) (d : Direction) (key : Key)
    (state : Option CipherState) (m : Message) (iv : Option (List UInt8)) (output : List UInt8) :
    let t := p.transform d key state m
    let code := p.cbcMac key m iv output
    (t.answer = .ok () ↔ Accepts p key state m) ∧
      (∀ e, t.answer = .error e ↔ Refuses p key state m e) ∧
      (∀ e, t.answer = .error e → t.message = m ∧ t.state = state) ∧
      (t.answer = .ok () → t.message.masked = m.masked ∧ CipherState.Follows state t.state) ∧
      ∀ e, code.answer = .error e → code.after = output := by
  intro t code
  refine ⟨answer_eq_ok_iff d, fun e => answer_eq_error_iff d, ?_, ?_, ?_⟩
  · intro e hanswer
    have hcall : t = .refused e m state := ((answer_eq_error_iff d).1 hanswer).transform_eq d
    rw [hcall]
    exact ⟨rfl, rfl⟩
  · intro hanswer
    have hcompleted : Completed state m t := ((answer_eq_ok_iff d).1 hanswer).completed d
    exact ⟨hcompleted.masked_eq, hcompleted.state_follows⟩
  · intro e hanswer
    exact after_cbcMac_of_error hanswer

/-- A chaining value of the wrong length is refused also where there is nothing to chain. -/
example :
    (Provider.des.transform .encrypt ⟨.desCbcCrc, List.replicate 8 1⟩ (some (.iv [1, 2, 3])) [])
      = .refused .badMessageSize [] (some (.iv [1, 2, 3])) :=
  rfl

end Provider
end Kerberos
