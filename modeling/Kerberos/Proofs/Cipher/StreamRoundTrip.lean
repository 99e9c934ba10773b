import Kerberos.Proofs.Cipher.ArcfourStream

/-!
# Decrypting a session of the stream cipher

The two ends of a session stay in step: they stop at the same empty segments and take as many bytes
of the keystream from each message. So decryption from a new state restores, one after the other,
all messages that were encrypted from a new state. Main statement: `session_decrypt_encrypt`.
-/

namespace Kerberos

/-- A message on its way, with the keys that are handed to its two ends. -/
structure Delivery where
  senderKey : Key
  receiverKey : Key
  message : Message

namespace Delivery

def sending (x : Delivery) : Call :=
  ⟨.encrypt, x.senderKey, x.message⟩

/-- The call at the other end, with the message that sending has left. -/
def receiving (x : Delivery) (sent : Exchange) : Call :=
  ⟨.decrypt, x.receiverKey, sent.result.message⟩

end Delivery

namespace ArcfourStream

open Arcfour (Generator)

/-! ## One message -/

/-- Mixing a mixed message with the same keystream restores it, and takes the generator as far. -/
theorem mixSegments_mixSegments (g : Generator) (m : Message) :
    mixSegments g (mixSegments g m).1 = (m, (mixSegments g m).2) := by
  induction m generalizing g with
  | nil => rfl
  | cons s rest ih =>
    cases hcontinues : continues s with
    | false =>
      -- both stop at the same empty segment
      simp only [mixSegments_of_empty hcontinues]
    | true =>
      cases henc : s.role.isEncrypted with
      | false => simp only [mixSegments_of_not_encrypted hcontinues henc, ih]
      | true =>
        have hcontinues' : continues { s with bytes := g.mix s.bytes } = true :=
          (continues_mix g s).trans hcontinues
        rw [mixSegments_of_encrypted hcontinues henc, mixSegments_of_encrypted hcontinues' henc]
        simp only [Generator.mix_mix, Generator.length_mix, ih]

/-! ## One call -/

section Call

variable {key key' : Key}

/-- A call that goes on with the generator with which a message was encrypted restores the message
and leaves the state that encryption has left. -/
theorem transform_transform (hkey : key.length = 16) (hkey' : key'.length = 16)
    {stream stream' : StreamState} (h : generator key' stream' = generator key stream)
    (m : Message) :
    let sent := transform key (some (.arcfour stream)) m
    transform key' (some (.arcfour stream')) sent.message = ⟨.ok (), m, sent.state⟩ := by
  intro sent
  simp only [sent, transform_of_key hkey, transform_of_key hkey', h, mixSegments_mixSegments]

theorem transform_transform_none (hkey : key.length = 16) (m : Message) :
    transform key none (transform key none m).message = ⟨.ok (), m, none⟩ := by
  simp only [transform_none hkey, mixSegments_mixSegments]

end Call

/-! ## Sessions -/

def sent (start : CipherState) (deliveries : List Delivery) : List Exchange :=
  Provider.arcfour.session (some start) (deliveries.map Delivery.sending)

/-- The calls that take what was sent from one state, in the same order and from another state. -/
def received (start start' : CipherState) (deliveries : List Delivery) : List Exchange :=
  Provider.arcfour.session (some start')
    (List.zipWith Delivery.receiving deliveries (sent start deliveries))

/-- Whether all messages have arrived as they were sent, and both ends are in the same state. -/
structure Arrived (start start' : CipherState) (deliveries : List Delivery) : Prop where
  sent_ok : ∀ e ∈ sent start deliveries, e.result.answer = .ok ()
  received_ok : ∀ e ∈ received start start' deliveries, e.result.answer = .ok ()
  messages_eq : (received start start' deliveries).map (·.result.message) =
    deliveries.map (·.message)
  state_eq : Exchange.stateAfter (some start') (received start start' deliveries) =
    Exchange.stateAfter (some start) (sent start deliveries)

theorem Arrived.nil (start : CipherState) : Arrived start start [] := by
  refine ⟨?_, ?_, rfl, rfl⟩
  · intro e he
    cases he
  · intro e he
    cases he

/-- A message that both ends handle with the same generator arrives, and if those after it arrive
from the states it leaves, all of them do. -/
theorem Arrived.cons {x : Delivery} {rest : List Delivery} {stream stream' : StreamState}
    (hkey : x.senderKey.length = 16) (hkey' : x.receiverKey.length = 16)
    (hstep : generator x.receiverKey stream' = generator x.senderKey stream)
    (hrest : ∀ g, Arrived (.arcfour (.active g)) (.arcfour (.active g)) rest) :
    Arrived (.arcfour stream) (.arcfour stream') (x :: rest) := by
  let g := (mixSegments (generator x.senderKey stream) x.message).2
  let first := transform x.senderKey (some (.arcfour stream)) x.message
  have hstate : first.state = some (.arcfour (.active g)) := by
    simp only [first, transform_of_key hkey, g]
  have hback : transform x.receiverKey (some (.arcfour stream')) first.message =
      ⟨.ok (), x.message, some (.arcfour (.active g))⟩ := by
    rw [← hstate]
    exact transform_transform hkey hkey' hstep x.message
  have hsent : sent (.arcfour stream) (x :: rest) =
      ⟨x.sending, some (.arcfour stream), first⟩ :: sent (.arcfour (.active g)) rest := by
    rw [sent, sent, ← hstate]
    rfl
  have hreceived : received (.arcfour stream) (.arcfour stream') (x :: rest) =
      ⟨⟨.decrypt, x.receiverKey, first.message⟩, some (.arcfour stream'),
        ⟨.ok (), x.message, some (.arcfour (.active g))⟩⟩ ::
        received (.arcfour (.active g)) (.arcfour (.active g)) rest := by
    rw [received, hsent, List.zipWith_cons_cons, Provider.session]
    have hcall : Provider.arcfour.transform .decrypt x.receiverKey (some (.arcfour stream'))
        first.message = ⟨.ok (), x.message, some (.arcfour (.active g))⟩ := hback
    simp only [Delivery.receiving, hcall]
    rfl
  have harrived := hrest g
  constructor
  · intro e he
    rw [hsent] at he
    rcases List.mem_cons.1 he with rfl | hlater
    · simp only [first, transform_of_key hkey]
    · exact harrived.sent_ok e hlater
  · intro e he
    rw [hreceived] at he
    rcases List.mem_cons.1 he with rfl | hlater
    · rfl
    · exact harrived.received_ok e hlater
  · rw [hreceived, List.map_cons, List.map_cons, harrived.messages_eq]
  · -- what the first call leaves at both ends is where the others start
    rw [hreceived, hsent, Exchange.stateAfter_cons, Exchange.stateAfter_cons, hstate]
    exact harrived.state_eq

/-- Two ends with the same generator stay in step whatever their keys are. -/
theorem arrived_active {deliveries : List Delivery}
    (hkeys : ∀ x ∈ deliveries, x.senderKey.length = 16 ∧ x.receiverKey.length = 16)
    (g : Generator) : Arrived (.arcfour (.active g)) (.arcfour (.active g)) deliveries := by
  -- on the messages, for any generator that those in front of them may have left
  induction deliveries generalizing g with
  | nil => exact .nil _
  | cons x rest ih =>
    have hx := hkeys x List.mem_cons_self
    refine .cons hx.1 hx.2 rfl ?_
    intro g'
    exact ih (fun y hy => hkeys y (List.mem_cons_of_mem x hy)) g'

/-- All messages that were encrypted from a new state are restored by decryption from a new state
with the same first key, whatever the other keys are, and both ends are then in the same state. A
single message is also restored without a state at either end. -/
theorem session_decrypt_encrypt (deliveries : List Delivery)
    (hkeys : ∀ x ∈ deliveries, x.senderKey.length = 16 ∧ x.receiverKey.length = 16)
    (hfirst : ∀ x ∈ deliveries.head?, x.receiverKey.bytes = x.senderKey.bytes) :
    let sentLog := sent freshState deliveries
    let receivedLog := received freshState freshState deliveries
    (∀ e ∈ sentLog ++ receivedLog, e.result.answer = .ok ()) ∧
      receivedLog.map (·.result.message) = deliveries.map (·.message) ∧
      Exchange.stateAfter (some freshState) receivedLog =
        Exchange.stateAfter (some freshState) sentLog ∧
      ∀ (key : Key) (m : Message), key.length = 16 →
        let one := Provider.arcfour.encrypt key none m
        let back := Provider.arcfour.decrypt key none one.message
        one.answer = .ok () ∧ back.answer = .ok () ∧ back.message = m := by
  intro sentLog receivedLog
  have harrived : Arrived freshState freshState deliveries := by
    cases deliveries with
    | nil => exact .nil _
    | cons x rest =>
      have hx := hkeys x List.mem_cons_self
      -- only here are keys looked at: a new state takes its generator from the first one
      have hgenerator : generator x.receiverKey .uninitialized =
          generator x.senderKey .uninitialized := by
        simp only [generator, hfirst x rfl]
      refine .cons hx.1 hx.2 hgenerator ?_
      exact arrived_active fun y hy => hkeys y (List.mem_cons_of_mem x hy)
  refine ⟨?_, harrived.messages_eq, harrived.state_eq, ?_⟩
  · intro e he
    rcases List.mem_append.1 he with hsent | hreceived
    · exact harrived.sent_ok e hsent
    · exact harrived.received_ok e hreceived
  · intro key m hkey one back
    have hone : one = ⟨.ok (), (mixSegments (generator key .uninitialized) m).1, none⟩ :=
      transform_none hkey m
    have hback : back = ⟨.ok (), m, none⟩ := transform_transform_none hkey m
    rw [hone, hback]
    exact ⟨rfl, rfl, rfl⟩

/-- Three messages, of which the second one has an empty segment in the middle and the third one has
no data. After the first message both ends are handed keys of their own. -/
theorem session_decrypt_encrypt_rekeyed :
    let key (b : UInt8) : Key := ⟨.arcfourHmac, List.replicate 16 b⟩
    let deliveries : List Delivery :=
      [⟨key 7, key 7, [⟨.header, [1]⟩, ⟨.data, [2, 3, 4]⟩]⟩,
        ⟨key 8, key 9, [⟨.data, [5]⟩, ⟨.signOnly, []⟩, ⟨.data, [6, 7]⟩]⟩,
        ⟨key 7, key 8, [⟨.padding, [8]⟩]⟩]
    (∀ x ∈ deliveries, x.senderKey.length = 16 ∧ x.receiverKey.length = 16) ∧
      (∀ x ∈ deliveries.head?, x.receiverKey.bytes = x.senderKey.bytes) ∧
      (received freshState freshState deliveries).map (·.result.message) =
        deliveries.map (·.message) := by
  intro key deliveries
  have hkeys : ∀ x ∈ deliveries, x.senderKey.length = 16 ∧ x.receiverKey.length = 16 := by
    decide
  have hfirst : ∀ x ∈ deliveries.head?, x.receiverKey.bytes = x.senderKey.bytes := by
    decide
  exact ⟨hkeys, hfirst, (session_decrypt_encrypt deliveries hkeys hfirst).2.1⟩

end ArcfourStream
end Kerberos
