import Kerberos.Proofs.Cipher.Mac

/-!
# Block operations that stay inside a message

The block cipher copies bytes into blocks, reads and writes blocks at cursors, and goes on until a
read finds no full block. Its operations have guarded forms here, which have no result if bytes are
copied to a place of another length, if a cursor is beyond the segment it is used on, or if the
reads that are allowed do not come to an end of the message. The checks of a call rule all of this
out: the guarded forms have a result for every input, and it is that of the operations.
-/

namespace Kerberos
namespace DesCbc

open Des (Block blockSize blocksOf bytesOf)

/-! ## Guarded forms -/

/-- Bytes that take the place of others, if they are as many. -/
def copy? (target bytes : List UInt8) : Option (List UInt8) :=
  if bytes.length = target.length then some bytes else none

def block? (bytes : List UInt8) : Option Block :=
  (copy? emptyBlock bytes).map Des.ofBytes

def startBlock? : Option (List UInt8) → Option Block
  | none => some (startBlock none)
  | some bytes => block? bytes

namespace Walk

def step? (transform : Block → Block → Block × Block) (w : Walk) : Option (Bool × Walk) :=
  (w.message.readBlock w.input w.buffer).bind fun r =>
    if r.full then
      (block? r.block).bind fun block =>
        let (out, chain) := transform w.chain block
        (w.message.writeBlock w.output (Des.toBytes out)).map fun (message, output) =>
          (true, { message, input := r.cursor, output, buffer := r.block, chain })
    else some (false, { w with input := r.cursor, buffer := r.block })

def run? (transform : Block → Block → Block × Block) : (limit : Nat) → Walk → Option Walk
  | 0, _ => none
  | limit + 1, w =>
    (w.step? transform).bind fun (full, w') => if full then run? transform limit w' else some w'

end Walk

def runAll? (d : Direction) (key : Key) (iv : Option (List UInt8)) (m : Message) : Option Walk :=
  (block? key.bytes).bind fun keyBlock =>
    (startBlock? iv).bind fun chain =>
      Walk.run? (blockTransform d (Des.schedule keyBlock)) (blockCount m + 1)
        { Walk.start m iv with chain }

/-- The last encrypted block is copied over the chaining value in the state. -/
def transform? (d : Direction) (key : Key) (state : Option CipherState) (m : Message) :
    Option Transformed :=
  match chainingValue state with
  | .error e => some (.refused e m state)
  | .ok iv =>
    match info.accept key iv m with
    | .error e => some (.refused e m state)
    | .ok false => some ⟨.ok (), m, state⟩
    | .ok true =>
      (runAll? d key iv m).bind fun w =>
        match iv with
        | none => some ⟨.ok (), w.message, none⟩
        | some bytes => (copy? bytes (w.lastBlock d)).map fun last =>
            ⟨.ok (), w.message, some (.iv last)⟩

def macRun? (cipher : Block → Block) (m : Message) : (limit : Nat) → Cursor → Block → Option Block
  | 0, _, _ => none
  | limit + 1, c, chain =>
    (m.readBlock c emptyBlock).bind fun r =>
      if r.full then
        (block? r.block).bind fun block =>
          macRun? cipher m limit r.cursor (cipher (block ^^^ chain))
      else some chain

def mac? (key : Key) (m : Message) (iv : Option (List UInt8)) (output : List UInt8) :
    Option (Outcome Error (List UInt8) Unit) :=
  match info.accept key iv m with
  | .error e => some ⟨.error e, output⟩
  | .ok false => some ⟨.ok (), output⟩
  | .ok true =>
    if output.length ≠ blockSize then some ⟨.error .badMessageSize, output⟩
    else
      (block? key.bytes).bind fun keyBlock =>
        (startBlock? iv).bind fun chain =>
          (macRun? (Des.crypt (Des.schedule keyBlock)) m (blockCount m + 1) {} chain).bind fun code =>
            (copy? output (Des.toBytes code)).map fun written => ⟨.ok (), written⟩

/-! ## Copies of whole blocks -/

theorem copy?_eq {target bytes : List UInt8} (h : bytes.length = target.length) :
    copy? target bytes = some bytes :=
  if_pos h

theorem block?_eq {bytes : List UInt8} (h : bytes.length = blockSize) :
    block? bytes = some (Des.ofBytes bytes) := by
  rw [block?, copy?_eq h, Option.map_some]

theorem block?_toBytes (block : Block) : block? (Des.toBytes block) = some block := by
  rw [block?_eq (Des.length_toBytes block), Des.ofBytes_toBytes]

theorem startBlock?_eq {iv : Option (List UInt8)} (h : ∀ b ∈ iv, b.length = blockSize) :
    startBlock? iv = some (startBlock iv) := by
  cases iv with
  | none => rfl
  | some bytes => exact block?_eq (h bytes rfl)

/-! ## Walks -/

namespace Walk

variable (transform : Block → Block → Block × Block) {m : Message} {w : Walk}

theorem step?_full {done rest : List UInt8} {block : Block} (hat : w.At m done.length)
    (hdata : w.message.dataBytes = done ++ (Des.toBytes block ++ rest)) :
    w.step? transform = some (w.step transform) := by
  rcases hat.readBlock_full hdata with ⟨input, -, -, hreadBlock⟩
  rcases hat.writeBlock_full hdata (transform w.chain block).1 with
    ⟨message, output, hwriteBlock, -⟩
  simp only [step?, step, hreadBlock, Option.bind_some, if_true, block?_toBytes,
    Des.ofBytes_toBytes, hwriteBlock, Option.map_some]

theorem step?_end (hat : w.At m w.message.dataLength) :
    w.step? transform = some (w.step transform) := by
  rcases hat.readBlock_end with ⟨input, hreadBlock⟩
  simp only [step?, step, hreadBlock, Option.bind_some, Bool.false_eq_true, if_false]

/-- A walk that is allowed one read more than there are blocks left comes to its end. -/
theorem run?_eq {blocks : List Block} {done : List UInt8} {limit : Nat}
    (hat : w.At m done.length) (hdata : w.message.dataBytes = done ++ bytesOf blocks)
    (hlimit : blocks.length < limit) : w.run? transform limit = some (w.run transform limit) := by
  -- on the blocks that are left; both cursors stay behind the part that is done
  induction blocks generalizing w done limit with
  | nil =>
    cases limit with
    | zero => cases hlimit
    | succ limit =>
      have hend : w.message.dataLength = done.length := by
        rw [← Message.length_dataBytes, hdata, Des.bytesOf_nil, List.append_nil]
      rcases step_end transform (hend ▸ hat) with ⟨input, hstep⟩
      simp only [run?, run, step?_end transform (hend ▸ hat), hstep, Option.bind_some,
        Bool.false_eq_true, if_false]
  | cons block rest ih =>
    cases limit with
    | zero => cases hlimit
    | succ limit =>
      rcases step_block transform hat hdata with ⟨w', hstep, hat', hdata', -⟩
      have hrest := ih hat' hdata' (Nat.lt_of_succ_lt_succ hlimit)
      simp only [run?, run, step?_full transform hat hdata, hstep, Option.bind_some, if_true, hrest]

end Walk

/-- Reads alone come to the end of the message as well: the last one finds no block. -/
theorem macRun?_eq (cipher : Block → Block) {m : Message} {blocks : List Block} {done : List UInt8}
    {c : Cursor} (hrests : c.RestsIn m) (hposition : c.position m = done.length)
    (hdata : m.dataBytes = done ++ bytesOf blocks) (chain : Block) :
    macRun? cipher m (blocks.length + 1) c chain =
      some (macRun cipher m blocks.length c chain) := by
  induction blocks generalizing done c chain with
  | nil =>
    -- both cursors of a walk may stand where the next read is made
    let w : Walk := ⟨m, c, c, emptyBlock, chain⟩
    have hend : c.position m = m.dataLength := by
      rw [hposition, ← Message.length_dataBytes, hdata, Des.bytesOf_nil, List.append_nil]
    have hat : w.At m w.message.dataLength := ⟨rfl, hrests, hend, hrests, hend, rfl⟩
    rcases hat.readBlock_end with ⟨input, hreadBlock⟩
    have hread : m.readBlock c emptyBlock = some ⟨false, emptyBlock, input⟩ := hreadBlock
    simp only [List.length_nil, macRun?, macRun, hread, Option.bind_some, Bool.false_eq_true,
      if_false]
  | cons block rest ih =>
    rcases readBlock_block hrests hposition hdata with
      ⟨c', hrests', hposition', hdata', hread⟩
    have hrest := ih hrests' hposition' hdata' (cipher (block ^^^ chain))
    rw [List.length_cons, macRun?, macRun]
    simp only [hread, Option.bind_some, if_true, block?_toBytes, Des.ofBytes_toBytes, hrest]

/-! ## Whole calls -/

section Calls

variable {key : Key} {iv : Option (List UInt8)} {m : Message}

theorem Accepted.runAll?_eq (h : Accepted key iv m) (d : Direction) :
    runAll? d key iv m = some (runAll d key iv m) := by
  have hdata : (Walk.start m iv).message.dataBytes = [] ++ bytesOf (blocksOf m.dataBytes) :=
    (bytesOf_blocksOf_dataBytes h.whole_blocks).symm
  have hlimit : (blocksOf m.dataBytes).length < blockCount m + 1 := by
    rw [length_blocksOf_dataBytes h.whole_blocks]
    exact Nat.lt_succ_self _
  rw [runAll?, block?_eq h.length_key, Option.bind_some, startBlock?_eq h.length_iv,
    Option.bind_some]
  exact Walk.run?_eq _ (Walk.start_at m iv) hdata hlimit

theorem Accepted.length_lastBlock_runAll (h : Accepted key iv m) (d : Direction) :
    ((runAll d key iv m).lastBlock d).length = blockSize := by
  cases d with
  | encrypt => exact Des.length_toBytes _
  | decrypt =>
    rcases runAll_eq .decrypt key iv h.whole_blocks with ⟨-, -, -, hbuffer⟩
    rw [Walk.lastBlock, hbuffer]
    rcases List.eq_nil_or_concat (blocksOf m.dataBytes) with hnil | ⟨before, last, hconcat⟩
    · rw [hnil]
      rfl
    · simp [hconcat, Des.length_toBytes]

theorem eq_map_iv_of_chainingValue {state : Option CipherState}
    (h : chainingValue state = .ok iv) : state = iv.map .iv := by
  cases state with
  | none =>
    cases h
    rfl
  | some state =>
    cases state with
    | iv bytes =>
      cases h
      rfl
    | arcfour stream => cases h

/-- No guard of a transform fails. -/
theorem transform?_eq (d : Direction) (key : Key) (state : Option CipherState) (m : Message) :
    transform? d key state m = some (transform d key state m) := by
  cases hvalue : chainingValue state with
  | error e => simp only [transform?, transform, hvalue]
  | ok iv =>
    cases haccept : info.accept key iv m with
    | error e => simp only [transform?, transform, hvalue, haccept]
    | ok hasData =>
      cases hasData with
      | false => simp only [transform?, transform, hvalue, haccept]
      | true =>
        have haccepted : Accepted key iv m := Accepted.of_accept haccept
        rw [eq_map_iv_of_chainingValue hvalue]
        simp only [transform?, transform, chainingValue_map_iv, haccept, haccepted.runAll?_eq d,
          Option.bind_some]
        cases iv with
        | none => rfl
        | some bytes =>
          -- the block that is copied over the chaining value is as long as this is
          have hlength : ((runAll d key (some bytes) m).lastBlock d).length = bytes.length := by
            rw [haccepted.length_lastBlock_runAll d, haccepted.length_iv bytes rfl]
          simp only [copy?_eq hlength, Option.map_some]

theorem mac?_eq (key : Key) (m : Message) (iv : Option (List UInt8)) (output : List UInt8) :
    mac? key m iv output = some (mac key m iv output) := by
  cases haccept : info.accept key iv m with
  | error e => simp only [mac?, mac, haccept]
  | ok hasData =>
    cases hasData with
    | false => simp only [mac?, mac, haccept]
    | true =>
      have haccepted : Accepted key iv m := Accepted.of_accept haccept
      by_cases hlength : output.length = blockSize
      · have hdata : m.dataBytes = [] ++ bytesOf (blocksOf m.dataBytes) :=
          (bytesOf_blocksOf_dataBytes haccepted.whole_blocks).symm
        have hrun := macRun?_eq (Des.crypt (Des.schedule (Des.ofBytes key.bytes))) (.inl rfl)
          (Cursor.position_start m) hdata (startBlock iv)
        -- the output is one block, so a code can be copied over it
        have hcode : ∀ code : Block, (Des.toBytes code).length = output.length := by
          intro code
          rw [Des.length_toBytes, hlength]
        rw [length_blocksOf_dataBytes haccepted.whole_blocks] at hrun
        simp only [mac?, mac, haccept, hlength, ne_eq, not_true_eq_false, if_false,
          block?_eq haccepted.length_key, startBlock?_eq haccepted.length_iv, Option.bind_some, hrun,
          copy?_eq (hcode _), Option.map_some]
      · simp only [mac?, mac, haccept, ne_eq, hlength, not_false_eq_true, if_true]

end Calls
end DesCbc
end Kerberos
