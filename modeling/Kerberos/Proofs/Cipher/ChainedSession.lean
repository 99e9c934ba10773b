import Kerberos.Proofs.Cipher.DesCbc
import Kerberos.Proofs.Cipher.Session

/-!
# One chain for a whole session

The calls of a session with a chaining value make one chain: what the successful ones make of their
data, piece after piece, is what a single call makes of all of it, and the state that is left is
the same. Refused calls leave no trace. Main statement: `session_eq_one_transform`.
-/

namespace Kerberos
namespace DesCbc

open Des (blockSize blocksOf bytesOf)

/-! ## Chaining a byte string in two parts -/

section Parts

variable (d : Direction) (key : Key) {iv bytes : List UInt8}

/-- The results of chaining a byte string and the chaining value that is left, which is its last
encrypted block. -/
theorem thread_blocksOf (hiv : iv.length = blockSize) (hbytes : bytes.length % blockSize = 0) :
    Chaining.thread (blockTransform d (Des.schedule (Des.ofBytes key.bytes))) (Des.ofBytes iv)
        (blocksOf bytes) =
      (blocksOf (chained d key iv bytes),
        Des.ofBytes (Des.lastBlock iv (ciphertext d bytes (chained d key iv bytes)))) := by
  apply Prod.ext
  · rw [← bytesOf_thread_blockTransform, Des.blocksOf_bytesOf]
  · cases d with
    | encrypt =>
      -- the encrypted side is the result
      simp only [blockTransform, Chaining.thread_encryptStep, ciphertext, chained]
      rw [Des.lastBlock_bytesOf hiv, Des.ofBytes_toBytes]
      rfl
    | decrypt =>
      -- the encrypted side is what was given, which is whole blocks
      have hlast := Des.lastBlock_bytesOf hiv (blocksOf bytes)
      rw [Des.bytesOf_blocksOf hbytes] at hlast
      simp only [blockTransform, Chaining.thread_decryptStep, ciphertext]
      rw [hlast, Des.ofBytes_toBytes]

theorem length_chained_mod (iv bytes : List UInt8) :
    (chained d key iv bytes).length % blockSize = 0 := by
  rw [← bytesOf_thread_blockTransform, Des.length_bytesOf]
  exact Nat.mul_mod_right _ _

theorem length_ciphertext_mod (iv : List UInt8) (hbytes : bytes.length % blockSize = 0) :
    (ciphertext d bytes (chained d key iv bytes)).length % blockSize = 0 := by
  cases d with
  | encrypt => exact length_chained_mod .encrypt key iv bytes
  | decrypt => exact hbytes

/-- A string that follows whole blocks is chained from their last encrypted block on. -/
theorem chained_append (hiv : iv.length = blockSize) (hbytes : bytes.length % blockSize = 0)
    (more : List UInt8) :
    chained d key iv (bytes ++ more) =
      chained d key iv bytes ++
        chained d key (Des.lastBlock iv (ciphertext d bytes (chained d key iv bytes))) more := by
  have hblocks : blocksOf (bytes ++ more) = blocksOf bytes ++ blocksOf more :=
    Des.blocksOf_append_of_whole hbytes more
  have hwhole : bytesOf (blocksOf (chained d key iv bytes)) = chained d key iv bytes :=
    Des.bytesOf_blocksOf (length_chained_mod d key iv bytes)
  calc
    chained d key iv (bytes ++ more)
        = bytesOf (Chaining.thread (blockTransform d (Des.schedule (Des.ofBytes key.bytes)))
            (Des.ofBytes iv) (blocksOf bytes ++ blocksOf more)).1 := by
          rw [← hblocks, bytesOf_thread_blockTransform]
    _ = bytesOf (blocksOf (chained d key iv bytes) ++
          (Chaining.thread (blockTransform d (Des.schedule (Des.ofBytes key.bytes)))
            (Des.ofBytes (Des.lastBlock iv (ciphertext d bytes (chained d key iv bytes))))
            (blocksOf more)).1) := by
          rw [Chaining.thread_append, thread_blocksOf d key hiv hbytes]
    _ = chained d key iv bytes ++
          chained d key (Des.lastBlock iv (ciphertext d bytes (chained d key iv bytes))) more := by
          rw [Des.bytesOf_append, hwhole, bytesOf_thread_blockTransform]

end Parts

/-! ## One call with a chaining value -/

section Call

variable {key : Key} {iv : List UInt8} {m : Message}

theorem transform_of_wrong_key (h : key.length ≠ 8) (d : Direction) (iv : List UInt8)
    (m : Message) :
    transform d key (some (.iv iv)) m = .refused .badKeySize m (some (.iv iv)) := by
  simp [transform, chainingValue, CipherInfo.accept, info, h]

theorem transform_of_partial_block (hkey : key.length = 8) (hm : m.dataBytes.length % 8 ≠ 0)
    (d : Direction) (iv : List UInt8) :
    transform d key (some (.iv iv)) m = .refused .badMessageSize m (some (.iv iv)) := by
  rw [Message.length_dataBytes] at hm
  simp [transform, chainingValue, CipherInfo.accept, info, Des.blockSize, hkey, hm]

theorem accepted_of_length (hkey : key.length = 8) (hiv : iv.length = 8)
    (hm : m.dataBytes.length % 8 = 0) : Accepted key (some iv) m := by
  apply Accepted.of_lengths hkey _ hm
  rintro chain ⟨⟩
  exact hiv

end Call

/-! ## Sessions -/

/-- The data that the successful calls of a session were given. -/
def dataBefore (log : List Exchange) : List UInt8 :=
  (log.filter (·.succeeded)).flatMap (·.call.message.dataBytes)

/-- The data that the successful calls of a session made of it. -/
def dataAfter (log : List Exchange) : List UInt8 :=
  (log.filter (·.succeeded)).flatMap (·.result.message.dataBytes)

/-- Whether some calls that start with a chaining value form one chain: their data is whole blocks,
chained from that value on, and the state that is left is the last encrypted block. -/
structure Linked (d : Direction) (key : Key) (iv : List UInt8) (log : List Exchange) : Prop where
  whole_blocks : (dataBefore log).length % blockSize = 0
  dataAfter_eq : dataAfter log = chained d key iv (dataBefore log)
  stateAfter_eq : Exchange.stateAfter (some (.iv iv)) log =
    some (.iv (Des.lastBlock iv (ciphertext d (dataBefore log) (dataAfter log))))

namespace Linked

variable {d : Direction} {key : Key} {iv next : List UInt8} {e : Exchange} {log : List Exchange}

theorem nil (d : Direction) (key : Key) (iv : List UInt8) : Linked d key iv [] := by
  refine ⟨rfl, (chained_nil d key iv).symm, ?_⟩
  cases d with
  | encrypt => rfl
  | decrypt => rfl

/-- A refused call in front of a chain adds nothing to it. -/
theorem cons_of_error {error : Error} (hanswer : e.result.answer = .error error)
    (hstate : e.result.state = some (.iv iv)) (h : Linked d key iv log) :
    Linked d key iv (e :: log) := by
  have hbefore : dataBefore (e :: log) = dataBefore log := by
    rw [dataBefore, Exchange.filter_succeeded_cons_of_error hanswer, dataBefore]
  have hafter : dataAfter (e :: log) = dataAfter log := by
    rw [dataAfter, Exchange.filter_succeeded_cons_of_error hanswer, dataAfter]
  refine ⟨?_, ?_, ?_⟩
  · rw [hbefore]
    exact h.whole_blocks
  · rw [hbefore, hafter]
    exact h.dataAfter_eq
  · rw [Exchange.stateAfter_cons, hstate, hbefore, hafter]
    exact h.stateAfter_eq

/-- A successful call goes in front of a chain that starts with the block it has left. -/
theorem cons_of_ok (hiv : iv.length = blockSize)
    (hwhole : e.call.message.dataBytes.length % blockSize = 0)
    (hanswer : e.result.answer = .ok ())
    (hdata : e.result.message.dataBytes = chained d key iv e.call.message.dataBytes)
    (hnext : next = Des.lastBlock iv
      (ciphertext d e.call.message.dataBytes e.result.message.dataBytes))
    (hstate : e.result.state = some (.iv next)) (h : Linked d key next log) :
    Linked d key iv (e :: log) := by
  have hbefore : dataBefore (e :: log) = e.call.message.dataBytes ++ dataBefore log := by
    rw [dataBefore, Exchange.filter_succeeded_cons_of_ok hanswer, List.flatMap_cons, dataBefore]
  have hafter : dataAfter (e :: log) = e.result.message.dataBytes ++ dataAfter log := by
    rw [dataAfter, Exchange.filter_succeeded_cons_of_ok hanswer, List.flatMap_cons, dataAfter]
  refine ⟨?_, ?_, ?_⟩
  · rw [hbefore, List.length_append, Nat.add_mod, hwhole, h.whole_blocks]
    rfl
  · rw [hbefore, hafter, chained_append d key hiv hwhole, ← hdata, ← hnext, h.dataAfter_eq]
  · -- the encrypted sides of the parts make the encrypted side of the whole
    have hciphertext : ciphertext d (dataBefore (e :: log)) (dataAfter (e :: log)) =
        ciphertext d e.call.message.dataBytes e.result.message.dataBytes ++
          ciphertext d (dataBefore log) (dataAfter log) := by
      rw [hbefore, hafter]
      cases d with
      | encrypt => rfl
      | decrypt => rfl
    have hmore : (ciphertext d (dataBefore log) (dataAfter log)).length % blockSize = 0 := by
      rw [h.dataAfter_eq]
      exact length_ciphertext_mod d key next h.whole_blocks
    rw [Exchange.stateAfter_cons, hstate, h.stateAfter_eq, hciphertext,
      Des.lastBlock_append _ _ hmore, ← hnext]

end Linked

/-- The chaining depends on the bytes of a key only. -/
theorem chained_congr {key key' : Key} (h : key'.bytes = key.bytes) (d : Direction)
    (iv bytes : List UInt8) : chained d key' iv bytes = chained d key iv bytes := by
  cases d with
  | encrypt => simp only [chained, h]
  | decrypt => simp only [chained, h]

/-- A session in one direction, with one key and others that are refused, forms one chain. -/
theorem session_linked {d : Direction} {key : Key} {iv : List UInt8} {calls : List Call}
    (hiv : iv.length = 8)
    (hcalls : ∀ c ∈ calls, c.direction = d ∧ (c.key.bytes = key.bytes ∨ c.key.length ≠ 8)) :
    Linked d key iv (Provider.des.session (some (.iv iv)) calls) := by
  -- on the calls, for every chaining value: an accepted call gives the next ones a value of its own
  induction calls generalizing iv with
  | nil => exact .nil d key iv
  | cons c rest ih =>
    rcases hcalls c List.mem_cons_self with ⟨rfl, hbytes⟩
    have hrest : ∀ c' ∈ rest,
        c'.direction = c.direction ∧ (c'.key.bytes = key.bytes ∨ c'.key.length ≠ 8) := by
      intro c' hc'
      exact hcalls c' (List.mem_cons_of_mem c hc')
    have hsession : Provider.des.session (some (.iv iv)) (c :: rest) =
        ⟨c, some (.iv iv), transform c.direction c.key (some (.iv iv)) c.message⟩ ::
          Provider.des.session (transform c.direction c.key (some (.iv iv)) c.message).state
            rest := rfl
    -- a call is refused for its key, refused for its data, or accepted
    by_cases hkey : c.key.length = 8
    · by_cases hm : c.message.dataBytes.length % 8 = 0
      · have haccepted := accepted_of_length hkey hiv hm
        -- a key that is accepted is not one of the others
        have hsame : c.key.bytes = key.bytes := by
          rcases hbytes with hsame | hother
          · exact hsame
          · exact absurd hkey hother
        have hdata : (transform c.direction c.key (some (.iv iv)) c.message).message.dataBytes =
            chained c.direction key iv c.message.dataBytes :=
          (haccepted.dataBytes_transform c.direction).trans (chained_congr hsame c.direction iv _)
        have hstate := haccepted.state_transform c.direction
        rw [Option.map_some, Option.map_some] at hstate
        -- the others start with the block that this call has left
        rw [hsession, hstate]
        refine .cons_of_ok hiv hm (haccepted.answer_transform c.direction) hdata rfl hstate
          (ih ?_ hrest)
        rw [hdata]
        exact Des.length_lastBlock hiv (length_ciphertext_mod c.direction key iv hm)
      · rw [hsession, transform_of_partial_block hkey hm]
        exact .cons_of_error rfl rfl (ih hiv hrest)
    · rw [hsession, transform_of_wrong_key hkey]
      exact .cons_of_error rfl rfl (ih hiv hrest)

/-- Every state of a session that starts with a chaining value of one block is one again. -/
theorem before_of_mem_session {iv : List UInt8} (hiv : iv.length = 8) {calls : List Call}
    {e : Exchange} (h : e ∈ Provider.des.session (some (.iv iv)) calls) :
    ∃ b : List UInt8, b.length = 8 ∧ e.before = some (.iv b) := by
  refine Provider.before_of_mem_session
    (P := fun state => ∃ b : List UInt8, b.length = 8 ∧ state = some (.iv b)) ?_ ⟨iv, hiv, rfl⟩ h
  rintro d key _ m ⟨b, hb, rfl⟩
  -- a refused call keeps the block it was given, an accepted one leaves the last encrypted block
  by_cases hkey : key.length = 8
  · by_cases hm : m.dataBytes.length % 8 = 0
    · have haccepted := accepted_of_length hkey hb hm
      refine ⟨_, ?_, haccepted.state_transform d⟩
      rw [haccepted.dataBytes_transform d]
      exact Des.length_lastBlock hb (length_ciphertext_mod d key b hm)
    · exact ⟨b, hb, congrArg Transformed.state (transform_of_partial_block hkey hm d b)⟩
  · exact ⟨b, hb, congrArg Transformed.state (transform_of_wrong_key hkey d b m)⟩

/-- Calls in one direction that share a chaining value of eight bytes, with one key of eight bytes
or with keys of other lengths: those with a key of another length, or with data that is not whole
blocks, are refused and change nothing, and all others succeed. One after the other these make of
their data what a single call makes of all of it, and they leave the same state. -/
theorem session_eq_one_transform (d : Direction) (key : Key) (iv : List UInt8)
    (calls : List Call) (hkey : key.length = 8) (hiv : iv.length = 8)
    (hcalls : ∀ c ∈ calls, c.direction = d ∧ (c.key.bytes = key.bytes ∨ c.key.length ≠ 8)) :
    let log := Provider.des.session (some (.iv iv)) calls
    log.map (·.call) = calls ∧
      (∀ e ∈ log, e.call.key.length ≠ 8 →
        e.result = .refused .badKeySize e.call.message e.before) ∧
      (∀ e ∈ log, e.call.key.length = 8 → e.call.message.dataBytes.length % 8 ≠ 0 →
        e.result = .refused .badMessageSize e.call.message e.before) ∧
      (∀ e ∈ log, e.call.key.length = 8 → e.call.message.dataBytes.length % 8 = 0 →
        e.result.answer = .ok ()) ∧
      ∀ whole : Message, whole.dataBytes = dataBefore log →
        let t := Provider.des.transform d key (some (.iv iv)) whole
        t.answer = .ok () ∧ t.message.dataBytes = dataAfter log ∧
          t.state = Exchange.stateAfter (some (.iv iv)) log := by
  intro log
  have hlinked : Linked d key iv log := session_linked hiv hcalls
  refine ⟨Provider.map_call_session _ _ _, ?_, ?_, ?_, ?_⟩
  · -- a refusal depends on the call alone, but says which state it keeps
    intro e he hother
    rcases before_of_mem_session hiv he with ⟨b, -, hbefore⟩
    rw [Provider.result_of_mem_session he, hbefore]
    exact transform_of_wrong_key hother _ _ _
  · intro e he hlength hpartial
    rcases before_of_mem_session hiv he with ⟨b, -, hbefore⟩
    rw [Provider.result_of_mem_session he, hbefore]
    exact transform_of_partial_block hlength hpartial _ _
  · intro e he hlength hwhole
    rcases before_of_mem_session hiv he with ⟨b, hb, hbefore⟩
    rw [Provider.result_of_mem_session he, hbefore]
    exact (accepted_of_length hlength hb hwhole).answer_transform _
  · -- the whole is accepted since it is made of whole blocks
    intro whole hwhole t
    have hm : whole.dataBytes.length % 8 = 0 := by
      rw [hwhole]
      exact hlinked.whole_blocks
    have haccepted := accepted_of_length hkey hiv hm
    have hdata : t.message.dataBytes = dataAfter log := by
      rw [hlinked.dataAfter_eq, ← hwhole]
      exact haccepted.dataBytes_transform d
    refine ⟨haccepted.answer_transform d, hdata, ?_⟩
    rw [hlinked.stateAfter_eq, ← hwhole, ← hdata]
    exact haccepted.state_transform d

/-- A key that is too short, data that ends within a block, no data at all, and two messages in
pieces, the state of the last one being that of the whole. -/
theorem session_eq_one_transform_interrupted :
    let key : Key := ⟨.desCbcCrc, [0x13, 0x34, 0x57, 0x79, 0x9B, 0xBC, 0xDF, 0xF1]⟩
    let short : Key := ⟨.desCbcCrc, [0x13, 0x34]⟩
    let iv : List UInt8 := [1, 2, 3, 4, 5, 6, 7, 8]
    let calls : List Call :=
      [⟨.decrypt, key, [⟨.data, [208, 200, 33]⟩, ⟨.signOnly, [7]⟩,
          ⟨.data, [102, 10, 166, 74, 66]⟩]⟩,
        ⟨.decrypt, short, [⟨.data, [1, 2, 3, 4, 5, 6, 7, 8]⟩]⟩,
        ⟨.decrypt, key, [⟨.data, [9, 9]⟩]⟩, ⟨.decrypt, key, [⟨.header, [3]⟩]⟩,
        ⟨.decrypt, key, [⟨.data, [87, 178, 192, 206, 32, 178, 252, 64]⟩]⟩]
    let log := Provider.des.session (some (.iv iv)) calls
    let whole : Message :=
      [⟨.data, [208, 200, 33, 102, 10, 166, 74, 66, 87, 178, 192, 206, 32, 178, 252, 64]⟩]
    key.length = 8 ∧ iv.length = 8 ∧
      (∀ c ∈ calls, c.direction = .decrypt ∧ (c.key.bytes = key.bytes ∨ c.key.length ≠ 8)) ∧
      whole.dataBytes = dataBefore log ∧
      dataAfter log = [10, 11, 12, 13, 14, 15, 16, 17, 18, 19, 20, 21, 22, 23, 24, 25] ∧
      (Provider.des.transform .decrypt key (some (.iv iv)) whole).message.dataBytes =
        dataAfter log ∧
      (Provider.des.transform .decrypt key (some (.iv iv)) whole).state =
        Exchange.stateAfter (some (.iv iv)) log := by
  intro key short iv calls log whole
  have hkey : key.length = 8 := by decide
  have hiv : iv.length = 8 := by decide
  have hcalls : ∀ c ∈ calls,
      c.direction = .decrypt ∧ (c.key.bytes = key.bytes ∨ c.key.length ≠ 8) := by
    simp [calls, key, short, Key.length]
  have hwhole : whole.dataBytes = dataBefore log := by
    decide +kernel
  have hplain : dataAfter log =
      [10, 11, 12, 13, 14, 15, 16, 17, 18, 19, 20, 21, 22, 23, 24, 25] := by
    decide +kernel
  have hone := (session_eq_one_transform .decrypt key iv calls hkey hiv hcalls).2.2.2.2
    whole hwhole
  exact ⟨hkey, hiv, hcalls, hwhole, hplain, hone.2.1, hone.2.2⟩

end DesCbc
end Kerberos
