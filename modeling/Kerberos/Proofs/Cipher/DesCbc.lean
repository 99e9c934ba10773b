import Kerberos.Cipher.Provider
import Kerberos.Proofs.Cipher.Chaining
import Kerberos.Proofs.Des.Bytes
import Kerberos.Proofs.Des.Inverse
import Kerberos.Proofs.Message.Flat

/-!
# Chaining in place

The transform of a message walks over its segments with two cursors and overwrites what it reads.
Seen from outside it is textbook chaining on the flat string of encrypted bytes: `dataBytes_transform`
says so for both directions, whatever the segments are, and `state_transform` says that a state
takes over the last encrypted block. The calls they speak of are the `Accepted` ones.
-/

namespace Kerberos
namespace DesCbc

open Des (Block blockSize blocksOf bytesOf)

/-! ## Textbook chaining on byte strings -/

/-- The chained encryption or decryption of a byte string of whole blocks. -/
def chained (d : Direction) (key : Key) (iv bytes : List UInt8) : List UInt8 :=
  match d with
  | .encrypt =>
    bytesOf (Chaining.encrypt (Des.encryptBlock (Des.ofBytes key.bytes)) (Des.ofBytes iv)
      (blocksOf bytes))
  | .decrypt =>
    bytesOf (Chaining.decrypt (Des.decryptBlock (Des.ofBytes key.bytes)) (Des.ofBytes iv)
      (blocksOf bytes))

/-- Which side of a transform is encrypted. -/
def ciphertext (d : Direction) (before after : List UInt8) : List UInt8 :=
  match d with
  | .encrypt => after
  | .decrypt => before

theorem chained_nil (d : Direction) (key : Key) (iv : List UInt8) : chained d key iv [] = [] := by
  cases d <;> simp [chained, blocksOf, Digest.chunks_nil, Chaining.encrypt, Chaining.decrypt, bytesOf]

theorem chained_decrypt_encrypt (key : Key) (iv : List UInt8) {bytes : List UInt8}
    (h : bytes.length % blockSize = 0) :
    chained .decrypt key iv (chained .encrypt key iv bytes) = bytes := by
  simp only [chained, Des.blocksOf_bytesOf]
  rw [Chaining.decrypt_encrypt (Des.decryptBlock_encryptBlock _)]
  exact Des.bytesOf_blocksOf h

/-! ## One step of the walk -/

namespace Walk

/-- Whether a walk over a message has come to a position: the message differs from the given one
in encrypted bytes only, and both cursors are at the position. -/
structure At (m : Message) (position : Nat) (w : Walk) : Prop where
  masked_eq : w.message.masked = m.masked
  input_rests : w.input.RestsIn w.message
  input_position : w.input.position w.message = position
  output_rests : w.output.RestsIn w.message
  output_position : w.output.position w.message = position
  length_buffer : w.buffer.length = blockSize

theorem start_at (m : Message) (iv : Option (List UInt8)) : (start m iv).At m 0 where
  masked_eq := rfl
  input_rests := .inl rfl
  input_position := Cursor.position_start m
  output_rests := .inl rfl
  output_position := Cursor.position_start m
  length_buffer := List.length_replicate

variable {m : Message} {w : Walk}

/-- Behind the last block nothing is found, and the buffer keeps what the last read has left in it. -/
theorem At.readBlock_end (hat : w.At m w.message.dataLength) :
    ∃ input : Cursor, w.message.readBlock w.input w.buffer = some ⟨false, w.buffer, input⟩ := by
  have hread : w.message.bytesAt (w.input.position w.message) w.buffer.length = [] := by
    apply List.eq_nil_of_length_eq_zero
    rw [Message.length_bytesAt, hat.input_position, Nat.sub_self, Nat.min_zero]
  rcases Message.readBlock_eq w.buffer hat.input_rests with ⟨input, -, -, hreadBlock⟩
  have hnotFull : ((0 : Nat) == w.buffer.length) = false := by
    rw [hat.length_buffer]
    rfl
  refine ⟨input, ?_⟩
  rw [hread] at hreadBlock
  simpa only [List.length_nil, hnotFull, Bool.false_and, List.isEmpty_nil, if_true] using hreadBlock

section Full

variable {done rest : List UInt8} {block : Block}

theorem At.le_dataLength (hdata : w.message.dataBytes = done ++ (Des.toBytes block ++ rest)) :
    done.length + blockSize ≤ w.message.dataLength := by
  rw [← Message.length_dataBytes, hdata, List.length_append, List.length_append,
    Des.length_toBytes]
  omega

/-- With a block left a full one is read. -/
theorem At.readBlock_full (hat : w.At m done.length)
    (hdata : w.message.dataBytes = done ++ (Des.toBytes block ++ rest)) :
    ∃ input : Cursor, input.RestsIn w.message ∧
      input.position w.message = done.length + blockSize ∧
      w.message.readBlock w.input w.buffer = some ⟨true, Des.toBytes block, input⟩ := by
  have hread : w.message.bytesAt (w.input.position w.message) w.buffer.length =
      Des.toBytes block := by
    rw [hat.input_position, hat.length_buffer, Message.bytesAt, hdata, List.drop_left,
      List.take_left' (Des.length_toBytes block)]
  rcases Message.readBlock_eq w.buffer hat.input_rests with
    ⟨input, hrests, hposition, hreadBlock⟩
  refine ⟨input, hrests, ?_, ?_⟩
  · rw [hposition, hat.input_position, hat.length_buffer, Nat.min_eq_left (At.le_dataLength hdata)]
  · have hlength : (Des.toBytes block).length = w.buffer.length := by
      rw [Des.length_toBytes, hat.length_buffer]
    have hbuffer : w.buffer.isEmpty = false := by
      cases hempty : w.buffer with
      | nil =>
        have hzero := hat.length_buffer
        rw [hempty] at hzero
        cases hzero
      | cons b bytes => rfl
    have hblock : (Des.toBytes block).isEmpty = false := rfl
    rw [hreadBlock, hread, hlength]
    simp [hbuffer, hblock]

/-- The result takes exactly the place of the block. -/
theorem At.writeBlock_full (hat : w.At m done.length)
    (hdata : w.message.dataBytes = done ++ (Des.toBytes block ++ rest)) (out : Block) :
    ∃ (message : Message) (output : Cursor),
      w.message.writeBlock w.output (Des.toBytes out) = some (message, output) ∧
      message.masked = w.message.masked ∧
      message.dataBytes = done ++ (Des.toBytes out ++ rest) ∧
      output.RestsIn message ∧ output.position message = done.length + blockSize := by
  rcases Message.writeBlock_eq (Des.toBytes out) hat.output_rests with
    ⟨message, output, hwriteBlock, hmasked, hwritten, hrests, hposition⟩
  have hsame : (Des.toBytes out).length = (Des.toBytes block).length := rfl
  refine ⟨message, output, hwriteBlock, hmasked, ?_, hrests, ?_⟩
  · rw [hwritten, hat.output_position, hdata, Message.overwrite_middle hsame]
  · rw [hposition, hat.output_position, Des.length_toBytes,
      Nat.min_eq_left (At.le_dataLength hdata)]

end Full

variable (transform : Block → Block → Block × Block)

/-- A step with a block left replaces this block by what the transform makes of it. -/
theorem step_full {done rest : List UInt8} {block : Block} (hat : w.At m done.length)
    (hdata : w.message.dataBytes = done ++ (Des.toBytes block ++ rest)) :
    ∃ w' : Walk, w.step transform = (true, w') ∧ w'.At m (done.length + blockSize) ∧
      w'.message.dataBytes = done ++ (Des.toBytes (transform w.chain block).1 ++ rest) ∧
      w'.chain = (transform w.chain block).2 ∧ w'.buffer = Des.toBytes block := by
  rcases hat.readBlock_full hdata with ⟨input, hinput, hinputPosition, hreadBlock⟩
  rcases hat.writeBlock_full hdata (transform w.chain block).1 with
    ⟨message, output, hwriteBlock, hmasked, hwritten, houtput, houtputPosition⟩
  refine ⟨⟨message, input, output, Des.toBytes block, (transform w.chain block).2⟩, ?_, ?_,
    hwritten, rfl, rfl⟩
  · simp only [step, hreadBlock, if_true, Des.ofBytes_toBytes, hwriteBlock]
  · -- the write moves neither cursor, since it changes encrypted bytes only
    exact
      { masked_eq := hmasked.trans hat.masked_eq
        input_rests := hinput.of_masked_eq hmasked
        input_position := by
          rw [Cursor.position_eq_of_masked_eq hmasked, hinputPosition]
        output_rests := houtput
        output_position := houtputPosition
        length_buffer := Des.length_toBytes block }

/-- After a step the block that was written belongs to the part that is done. -/
theorem step_block {done : List UInt8} {block : Block} {rest : List Block}
    (hat : w.At m done.length) (hdata : w.message.dataBytes = done ++ bytesOf (block :: rest)) :
    ∃ w' : Walk, w.step transform = (true, w') ∧
      w'.At m (done ++ Des.toBytes (transform w.chain block).1).length ∧
      w'.message.dataBytes =
        (done ++ Des.toBytes (transform w.chain block).1) ++ bytesOf rest ∧
      w'.chain = (transform w.chain block).2 ∧ w'.buffer = Des.toBytes block := by
  rcases step_full transform hat hdata with ⟨w', hstep, hat', hdata', hchain, hbuffer⟩
  refine ⟨w', hstep, ?_, ?_, hchain, hbuffer⟩
  · rw [List.length_append, Des.length_toBytes]
    exact hat'
  · rw [List.append_assoc]
    exact hdata'

/-- A step behind the last block changes neither the message nor the buffer. -/
theorem step_end (hat : w.At m w.message.dataLength) :
    ∃ input : Cursor, w.step transform = (false, { w with input }) := by
  rcases hat.readBlock_end with ⟨input, hreadBlock⟩
  refine ⟨input, ?_⟩
  simp only [step, hreadBlock, Bool.false_eq_true, if_false]

/-! ## The whole walk -/

/-- A walk with some blocks left, and with at least one read more to be made, threads the chaining
value through all of them. -/
theorem run_eq {blocks : List Block} {done : List UInt8} {limit : Nat}
    (hat : w.At m done.length) (hdata : w.message.dataBytes = done ++ bytesOf blocks)
    (hlimit : blocks.length < limit) :
    (w.run transform limit).message.masked = m.masked ∧
      (w.run transform limit).message.dataBytes =
        done ++ bytesOf (Chaining.thread transform w.chain blocks).1 ∧
      (w.run transform limit).chain = (Chaining.thread transform w.chain blocks).2 ∧
      (w.run transform limit).buffer = (blocks.map Des.toBytes).getLastD w.buffer := by
  induction blocks generalizing w done limit with
  | nil =>
    cases limit with
    | zero => simp at hlimit
    | succ limit =>
      have hend : w.message.dataLength = done.length := by
        rw [← Message.length_dataBytes, hdata, Des.bytesOf_nil, List.append_nil]
      -- the read behind the last block ends the run
      rcases step_end transform (hend ▸ hat) with ⟨input, hstep⟩
      have hrun : w.run transform (limit + 1) = { w with input } := by
        simp only [run, hstep, Bool.false_eq_true, if_false]
      rw [hrun]
      exact ⟨hat.masked_eq, hdata, rfl, rfl⟩
  | cons block rest ih =>
    cases limit with
    | zero => simp at hlimit
    | succ limit =>
      rcases step_block transform hat hdata with
        ⟨w', hstep, hat', hdata', hchain, hbuffer⟩
      have hrun : w.run transform (limit + 1) = w'.run transform limit := by
        simp only [run, hstep, if_true]
      have hrest := ih hat' hdata' (Nat.lt_of_succ_lt_succ hlimit)
      rw [hchain, hbuffer] at hrest
      rw [hrun, Chaining.thread_cons, Des.bytesOf_cons, ← List.append_assoc, List.map_cons,
        List.getLastD_cons]
      exact hrest

end Walk

/-! ## The whole transform -/

theorem startBlock_eq (iv : Option (List UInt8)) :
    startBlock iv = Des.ofBytes (iv.getD emptyBlock) := by
  cases iv with
  | none => rfl
  | some bytes => rfl

theorem chainingValue_map_iv (iv : Option (List UInt8)) : chainingValue (iv.map .iv) = .ok iv := by
  cases iv with
  | none => rfl
  | some bytes => rfl

theorem bytesOf_thread_blockTransform (d : Direction) (key : Key) (iv bytes : List UInt8) :
    bytesOf (Chaining.thread (blockTransform d (Des.schedule (Des.ofBytes key.bytes)))
      (Des.ofBytes iv) (blocksOf bytes)).1 = chained d key iv bytes := by
  cases d with
  | encrypt =>
    simp only [blockTransform, Chaining.thread_encryptStep]
    rfl
  | decrypt =>
    simp only [blockTransform, Chaining.thread_decryptStep]
    rfl

theorem dataBytes_eq_nil {m : Message} (h : m.dataLength = 0) : m.dataBytes = [] := by
  rw [← List.length_eq_zero_iff, Message.length_dataBytes, h]

theorem bytesOf_blocksOf_dataBytes {m : Message} (hm : m.dataLength % blockSize = 0) :
    bytesOf (blocksOf m.dataBytes) = m.dataBytes := by
  apply Des.bytesOf_blocksOf
  rw [Message.length_dataBytes, hm]

theorem length_blocksOf_dataBytes {m : Message} (hm : m.dataLength % blockSize = 0) :
    (blocksOf m.dataBytes).length = blockCount m := by
  have hcount : blockSize * (blocksOf m.dataBytes).length = m.dataLength := by
    rw [← Des.length_bytesOf, bytesOf_blocksOf_dataBytes hm, Message.length_dataBytes]
  rw [blockCount, ← hcount, Nat.mul_div_cancel_left _ (by decide)]

/-- A run over a message of whole blocks makes textbook chaining of its encrypted bytes. -/
theorem runAll_eq (d : Direction) (key : Key) (iv : Option (List UInt8)) {m : Message}
    (hm : m.dataLength % blockSize = 0) :
    (runAll d key iv m).message.masked = m.masked ∧
      (runAll d key iv m).message.dataBytes = chained d key (iv.getD emptyBlock) m.dataBytes ∧
      (runAll d key iv m).chain =
        (Chaining.thread (blockTransform d (Des.schedule (Des.ofBytes key.bytes)))
          (Des.ofBytes (iv.getD emptyBlock)) (blocksOf m.dataBytes)).2 ∧
      (runAll d key iv m).buffer = ((blocksOf m.dataBytes).map Des.toBytes).getLastD emptyBlock := by
  have hbytes : bytesOf (blocksOf m.dataBytes) = m.dataBytes := bytesOf_blocksOf_dataBytes hm
  -- one more read is made than there are blocks
  have hlimit : (blocksOf m.dataBytes).length < blockCount m + 1 := by
    rw [length_blocksOf_dataBytes hm]
    exact Nat.lt_succ_self _
  have hstart : (Walk.start m iv).message.dataBytes = [] ++ bytesOf (blocksOf m.dataBytes) :=
    hbytes.symm
  have hchain : (Walk.start m iv).chain = Des.ofBytes (iv.getD emptyBlock) := startBlock_eq iv
  have hrun := Walk.run_eq (blockTransform d (Des.schedule (Des.ofBytes key.bytes)))
    (Walk.start_at m iv) hstart hlimit
  rw [hchain, bytesOf_thread_blockTransform, List.nil_append] at hrun
  exact hrun

/-! ## Calls that are accepted -/

/-- What the checks of a call ask for: a key of eight bytes, a chaining value of one block, if there
is one, and a message of whole blocks. -/
structure Accepted (key : Key) (iv : Option (List UInt8)) (m : Message) : Prop where
  length_key : key.length = 8
  length_iv : ∀ b ∈ iv, b.length = blockSize
  whole_blocks : m.dataLength % blockSize = 0

namespace Accepted

variable {key : Key} {iv : Option (List UInt8)} {m : Message}

theorem length_getD_emptyBlock (h : Accepted key iv m) :
    (iv.getD emptyBlock).length = blockSize := by
  cases iv with
  | none => rfl
  | some bytes => exact h.length_iv bytes rfl

theorem accept_eq (h : Accepted key iv m) : info.accept key iv m = .ok (m.dataLength ≠ 0) := by
  cases iv with
  | none => simp [CipherInfo.accept, info, h.length_key, h.whole_blocks]
  | some bytes =>
    simp [CipherInfo.accept, info, h.length_key, h.whole_blocks, h.length_iv bytes rfl]

theorem of_lengths (hkey : key.length = 8) (hiv : ∀ b ∈ iv, b.length = 8)
    (hm : m.dataBytes.length % 8 = 0) : Accepted key iv m := by
  refine ⟨hkey, hiv, ?_⟩
  rwa [Message.length_dataBytes] at hm

theorem of_dataLength_eq {m' : Message} (h : Accepted key iv m)
    (hlength : m'.dataLength = m.dataLength) : Accepted key iv m' := by
  refine ⟨h.length_key, h.length_iv, ?_⟩
  rw [hlength]
  exact h.whole_blocks

/-- The checks let no other call pass. -/
theorem of_accept {hasData : Bool} (h : info.accept key iv m = .ok hasData) :
    Accepted key iv m := by
  rw [CipherInfo.accept] at h
  by_cases hkey : key.length ≠ info.keyLength
  · rw [if_pos hkey] at h
    cases h
  · rw [if_neg hkey] at h
    by_cases hsize : m.dataLength % info.blockSize ≠ 0 ∨ iv.any (·.length ≠ info.blockSize)
    · rw [if_pos hsize] at h
      cases h
    · rw [not_or] at hsize
      refine ⟨Decidable.not_not.1 hkey, ?_, Decidable.not_not.1 hsize.1⟩
      intro b hb
      apply Decidable.byContradiction
      intro hlength
      exact hsize.2 (by simp [Option.mem_def.1 hb, info, hlength])

/-- A run over a message that is not empty ends with its last encrypted block. -/
theorem lastBlock_runAll (d : Direction) (h : Accepted key iv m) (hpos : m.dataLength ≠ 0) :
    (runAll d key iv m).lastBlock d =
      Des.lastBlock (iv.getD emptyBlock)
        (ciphertext d m.dataBytes (runAll d key iv m).message.dataBytes) := by
  rcases runAll_eq d key iv h.whole_blocks with ⟨-, hdata, hchain, hbuffer⟩
  cases d with
  | encrypt =>
    -- what was written last is the chaining value
    have hlast := Des.lastBlock_bytesOf h.length_getD_emptyBlock
      (Chaining.encrypt (Des.encryptBlock (Des.ofBytes key.bytes))
        (Des.ofBytes (iv.getD emptyBlock)) (blocksOf m.dataBytes))
    simp only [blockTransform, Chaining.thread_encryptStep] at hchain
    rw [Walk.lastBlock, hchain, ciphertext, hdata]
    exact hlast.symm
  | decrypt =>
    -- what was read last is still in the buffer, for the failing read leaves it there
    have hbytes : bytesOf (blocksOf m.dataBytes) = m.dataBytes :=
      bytesOf_blocksOf_dataBytes h.whole_blocks
    have hlast := Des.lastBlock_bytesOf h.length_getD_emptyBlock (blocksOf m.dataBytes)
    rw [hbytes] at hlast
    rw [Walk.lastBlock, hbuffer, ciphertext, hlast]
    rcases List.eq_nil_or_concat (blocksOf m.dataBytes) with hnil | ⟨before, last, hconcat⟩
    · -- there is a block, since there are bytes
      have hzero : m.dataLength = 0 := by
        rw [← Message.length_dataBytes, ← hbytes, hnil]
        rfl
      exact absurd hzero hpos
    · simp [hconcat]

/-- The transform does nothing to a message without data, and makes a run over all others. -/
theorem transform_eq (d : Direction) (h : Accepted key iv m) :
    transform d key (iv.map .iv) m =
      if m.dataLength = 0 then ⟨.ok (), m, iv.map .iv⟩
      else ⟨.ok (), (runAll d key iv m).message,
        iv.map fun _ => .iv ((runAll d key iv m).lastBlock d)⟩ := by
  simp only [transform, chainingValue_map_iv, h.accept_eq]
  by_cases hpos : m.dataLength = 0
  · simp [hpos]
  · simp [hpos, Function.comp_def]

theorem answer_transform (d : Direction) (h : Accepted key iv m) :
    (transform d key (iv.map .iv) m).answer = .ok () := by
  rw [h.transform_eq d]
  split <;> rfl

theorem masked_transform (d : Direction) (h : Accepted key iv m) :
    (transform d key (iv.map .iv) m).message.masked = m.masked := by
  rw [h.transform_eq d]
  by_cases hzero : m.dataLength = 0
  · rw [if_pos hzero]
  · rw [if_neg hzero]
    exact (runAll_eq d key iv h.whole_blocks).1

theorem dataLength_transform (d : Direction) (h : Accepted key iv m) :
    (transform d key (iv.map .iv) m).message.dataLength = m.dataLength :=
  Message.dataLength_eq_of_masked_eq (h.masked_transform d)

/-- The transform is textbook chaining of the encrypted bytes, with zeros as the chaining value
where there is no state. -/
theorem dataBytes_transform (d : Direction) (h : Accepted key iv m) :
    (transform d key (iv.map .iv) m).message.dataBytes =
      chained d key (iv.getD emptyBlock) m.dataBytes := by
  rw [h.transform_eq d]
  by_cases hzero : m.dataLength = 0
  · rw [if_pos hzero]
    simp only [dataBytes_eq_nil hzero, chained_nil]
  · rw [if_neg hzero]
    exact (runAll_eq d key iv h.whole_blocks).2.1

/-- A state takes over the last encrypted block, if there is one. -/
theorem state_transform (d : Direction) (h : Accepted key iv m) :
    (transform d key (iv.map .iv) m).state =
      iv.map fun b => .iv (Des.lastBlock b
        (ciphertext d m.dataBytes (transform d key (iv.map .iv) m).message.dataBytes)) := by
  rw [h.transform_eq d]
  by_cases hzero : m.dataLength = 0
  · -- there is no block, and the state stays
    have hnone : ciphertext d m.dataBytes m.dataBytes = [] := by
      cases d <;> exact dataBytes_eq_nil hzero
    rw [if_pos hzero]
    simp only [hnone, Des.lastBlock, List.isEmpty_nil, if_true]
  · rw [if_neg hzero]
    cases iv with
    | none => rfl
    | some bytes => simp only [Option.map_some, h.lastBlock_runAll d hzero, Option.getD_some]

end Accepted

/-! ## The refinement -/

/-- In both directions the transform in place refines textbook chaining on the flat message: for
every key of eight bytes, every chaining value of eight bytes (or none, which acts as zeros) and
every message of whole blocks, however it is cut into segments. All other bytes, all roles and all
lengths stay, and a state ends with the last encrypted block. -/
theorem des_transform_refines_chaining (d : Direction) (key : Key) (iv : Option (List UInt8))
    (m : Message) (hkey : key.length = 8) (hiv : ∀ b ∈ iv, b.length = 8)
    (hm : m.dataBytes.length % 8 = 0) :
    let t := Provider.des.transform d key (iv.map .iv) m
    t.answer = .ok () ∧
      t.message.dataBytes = chained d key (iv.getD (List.replicate 8 0)) m.dataBytes ∧
      t.message.masked = m.masked ∧
      t.state = iv.map fun b =>
        .iv (Des.lastBlock b (ciphertext d m.dataBytes t.message.dataBytes)) := by
  intro t
  have haccepted : Accepted key iv m := by
    refine ⟨hkey, hiv, ?_⟩
    rwa [Message.length_dataBytes] at hm
  exact ⟨haccepted.answer_transform d, haccepted.dataBytes_transform d,
    haccepted.masked_transform d, haccepted.state_transform d⟩

/-- Two encrypted blocks in pieces, the first of which ends within a block. -/
theorem des_transform_refines_chaining_scattered :
    let key : Key := ⟨.desCbcCrc, [0x13, 0x34, 0x57, 0x79, 0x9B, 0xBC, 0xDF, 0xF1]⟩
    let iv : Option (List UInt8) := some [1, 2, 3, 4, 5, 6, 7, 8]
    let m : Message := [⟨.header, [7]⟩, ⟨.data, [208, 200, 33, 102, 10, 166]⟩, ⟨.signOnly, []⟩,
      ⟨.data, [74, 66, 87, 178, 192, 206, 32, 178, 252, 64]⟩]
    let t := Provider.des.transform .decrypt key (iv.map .iv) m
    key.length = 8 ∧ (∀ b ∈ iv, b.length = 8) ∧ m.dataBytes.length % 8 = 0 ∧
      t.answer = .ok () ∧
      t.message.dataBytes = [10, 11, 12, 13, 14, 15, 16, 17, 18, 19, 20, 21, 22, 23, 24, 25] ∧
      t.message.masked = m.masked ∧
      t.state = some (.iv [87, 178, 192, 206, 32, 178, 252, 64]) := by
  intro key iv m t
  have hkey : key.length = 8 := by decide
  have hiv : ∀ b ∈ iv, b.length = 8 := by decide
  have hm : m.dataBytes.length % 8 = 0 := by decide
  rcases des_transform_refines_chaining .decrypt key iv m hkey hiv hm with
    ⟨hanswer, hdata, hmasked, hstate⟩
  have hplain : chained .decrypt key (iv.getD (List.replicate 8 0)) m.dataBytes =
      [10, 11, 12, 13, 14, 15, 16, 17, 18, 19, 20, 21, 22, 23, 24, 25] := by
    decide +kernel
  exact ⟨hkey, hiv, hm, hanswer, hdata.trans hplain, hmasked, hstate⟩

end DesCbc
end Kerberos
