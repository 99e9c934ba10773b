import Kerberos.Proofs.Message.Flat

/-!
# Blocks one after another

Blocks of any lengths are read, or written, with one cursor that starts in front of a message. What
comes of it can be said without segments and cursors: all that counts is the flat string of
encrypted bytes and how many of them the blocks before have taken up. Main statements:
`readBlocks_flat` and `writeBlocks_flat`.
-/

namespace Kerberos

/-! ## Blocks of a byte string -/

namespace Flat

/-- The number of bytes that a block shares with a string of `total` bytes from a position on. -/
def overlap (total position : Nat) (block : List UInt8) : Nat :=
  min block.length (total - position)

/-- What reading the bytes at a position over a block gives: whether the block is full, and its
bytes. Behind the last byte there are zeros, unless there is no byte at all. -/
def read (bytes : List UInt8) (position : Nat) (block : List UInt8) : Bool × List UInt8 :=
  let k := overlap bytes.length position block
  (decide (0 < block.length ∧ k = block.length),
    -- a block that reaches no byte keeps what it holds
    if k = 0 then block
    else (bytes.drop position).take k ++ List.replicate (block.length - k) 0)

/-- What reading some blocks gives, each from where the one before it ended. -/
def readAll (bytes : List UInt8) : (position : Nat) → List (List UInt8) → List (Bool × List UInt8)
  | _, [] => []
  | position, block :: rest =>
    read bytes position block ::
      readAll bytes (position + overlap bytes.length position block) rest

/-- The byte string with those at a position replaced by the first bytes of a block. -/
def write (bytes : List UInt8) (position : Nat) (block : List UInt8) : List UInt8 :=
  let k := overlap bytes.length position block
  -- the bytes of the block from `k` on have no place in the string
  bytes.take position ++ (block.take k ++ bytes.drop (position + k))

/-- The byte strings that writing some blocks gives, one after each block. -/
def writeAll (bytes : List UInt8) : (position : Nat) → List (List UInt8) → List (List UInt8)
  | _, [] => []
  | position, block :: rest =>
    write bytes position block ::
      writeAll (write bytes position block)
        (position + overlap bytes.length position block) rest

end Flat

/-- A cursor that rests in a message is not past its encrypted bytes. -/
theorem Cursor.RestsIn.position_le {c : Cursor} {m : Message} (h : c.RestsIn m) :
    c.position m ≤ m.dataLength := by
  rw [Message.dataLength_split m c, Cursor.position]
  apply Nat.add_le_add_left
  have hfirst := Cursor.restsIn_drop h
  -- the cursor lies in the first of the segments that are left
  cases hrest : m.drop c.segment with
  | nil =>
    rw [hrest] at hfirst
    exact Nat.le_of_eq hfirst.offset_eq_zero_of_nil
  | cons s rest =>
    rw [hrest] at hfirst
    rw [Message.dataLength_cons]
    cases henc : s.role.isEncrypted with
    | false =>
      rw [hfirst.offset_eq_zero henc]
      exact Nat.zero_le _
    | true => exact Nat.le_trans hfirst.offset_le (Nat.le_add_right _ _)

namespace Message

open Flat (overlap)

/-- The end of a walk, seen from the place where it started. -/
theorem min_position_add {c : Cursor} {m : Message} (h : c.RestsIn m) (block : List UInt8) :
    min (c.position m + block.length) m.dataLength =
      c.position m + overlap m.dataBytes.length (c.position m) block := by
  -- a position past the end would make the difference in `overlap` zero instead of negative
  have hle := h.position_le
  rw [overlap, length_dataBytes]
  omega

/-! ## Reading -/

/-- Reads some blocks, each from where the one before it ended. -/
def readBlocks (m : Message) : Cursor → List (List UInt8) → Option (List BlockRead)
  | _, [] => some []
  | c, block :: rest =>
    match m.readBlock c block with
    | none => none
    | some r => (readBlocks m r.cursor rest).map (r :: ·)

theorem bytesAt_eq (m : Message) (position : Nat) (block : List UInt8) :
    m.bytesAt position block.length =
      (m.dataBytes.drop position).take (overlap m.dataBytes.length position block) := by
  rw [bytesAt, overlap, ← List.length_drop, ← List.take_take, List.take_length]

/-- A block read at a cursor is a block read at its position. -/
theorem readBlock_flat {m : Message} {c : Cursor} (block : List UInt8) (h : c.RestsIn m) :
    ∃ r : BlockRead, m.readBlock c block = some r ∧ r.cursor.RestsIn m ∧
      r.cursor.position m =
        c.position m + overlap m.dataBytes.length (c.position m) block ∧
      (r.full, r.block) = Flat.read m.dataBytes (c.position m) block := by
  rcases readBlock_eq block h with ⟨c', hrests, hposition, hread⟩
  refine ⟨_, hread, hrests, hposition.trans (min_position_add h block), ?_⟩
  have hlength : (m.bytesAt (c.position m) block.length).length =
      overlap m.dataBytes.length (c.position m) block := by
    rw [length_bytesAt, overlap, length_dataBytes]
  apply Prod.ext
  · -- a block is full if none of its bytes is missing, and if it has bytes
    apply Bool.eq_iff_iff.2
    simp [Flat.read, hlength, List.length_pos_iff, and_comm]
  · -- the bytes are those that are there, with zeros in place of the missing ones
    simp only [Flat.read, List.isEmpty_iff_length_eq_zero, hlength]
    rw [bytesAt_eq]

/-- Reading blocks from a message is reading them from its encrypted bytes. -/
theorem readBlocks_of_restsIn {m : Message} {c : Cursor} (blocks : List (List UInt8))
    (h : c.RestsIn m) :
    ∃ reads : List BlockRead, m.readBlocks c blocks = some reads ∧
      reads.map (fun r => (r.full, r.block)) =
        Flat.readAll m.dataBytes (c.position m) blocks ∧
      ∀ r ∈ reads, r.cursor.RestsIn m := by
  -- on the blocks, for every cursor that rests in the message: a read leaves such a cursor
  induction blocks generalizing c with
  | nil =>
    refine ⟨[], rfl, rfl, ?_⟩
    intro r hr
    cases hr
  | cons block rest ih =>
    rcases readBlock_flat block h with ⟨r, hread, hrests, hposition, hflat⟩
    rcases ih hrests with ⟨reads, hreads, hrest, hall⟩
    refine ⟨r :: reads, ?_, ?_, ?_⟩
    · simp only [readBlocks, hread, hreads, Option.map_some]
    · -- the next block starts behind the bytes that this one has taken up
      rw [hposition] at hrest
      simp only [List.map_cons, Flat.readAll, hflat, hrest]
    · intro r' hr'
      rcases List.mem_cons.1 hr' with rfl | hmem
      · exact hrests
      · exact hall r' hmem

/-- Blocks of any lengths that are read with one cursor from the front get the encrypted bytes one
after the other. No read breaks down, and the cursor rests in the message after each of them. -/
theorem readBlocks_flat (m : Message) (blocks : List (List UInt8)) :
    ∃ reads : List BlockRead, m.readBlocks {} blocks = some reads ∧
      reads.map (fun r => (r.full, r.block)) = Flat.readAll m.dataBytes 0 blocks ∧
      ∀ r ∈ reads, r.cursor.offset = 0 ∨
        ∃ s, m[r.cursor.segment]? = some s ∧ s.role.isEncrypted = true ∧
          r.cursor.offset ≤ s.bytes.length :=
  readBlocks_of_restsIn blocks (.inl rfl)

/-- A block that ends within a segment, an empty one, one over two segments with another one
between them, and two behind the last byte. -/
example :
    (readBlocks [⟨.data, [1, 2, 3]⟩, ⟨.signOnly, [9]⟩, ⟨.data, [4, 5]⟩] {}
        [[0, 0], [], [0, 0], [7, 7], [7, 7]]).map
          (·.map fun r => (r.full, r.block)) =
      some [(true, [1, 2]), (false, []), (true, [3, 4]), (false, [5, 0]), (false, [7, 7])] := by
  decide

/-! ## Writing -/

/-- Writes some blocks, each from where the one before it ended. Gives the message after each. -/
def writeBlocks : Message → Cursor → List (List UInt8) → Option (List Message)
  | _, _, [] => some []
  | m, c, block :: rest =>
    match m.writeBlock c block with
    | none => none
    | some (m', c') => (writeBlocks m' c' rest).map (m' :: ·)

/-- What a walk writes is what a block shares with the byte string. -/
theorem overwrite_eq (bytes : List UInt8) (position : Nat) (block : List UInt8) :
    overwrite bytes position block = Flat.write bytes position block := by
  have htake : block.take (bytes.length - position) =
      block.take (overlap bytes.length position block) := by
    rw [overlap, Nat.min_comm, ← List.take_take, List.take_length]
  have hdrop : bytes.drop (position + block.length) =
      bytes.drop (position + overlap bytes.length position block) := by
    by_cases hfits : position + block.length ≤ bytes.length
    · have hoverlap : overlap bytes.length position block = block.length := by
        rw [overlap]
        omega
      rw [hoverlap]
    · -- nothing is left behind the block
      have hend : bytes.length ≤ position + overlap bytes.length position block := by
        rw [overlap]
        omega
      rw [List.drop_eq_nil_of_le hend, List.drop_eq_nil_of_le (Nat.le_of_not_le hfits)]
  simp only [overwrite, Flat.write, htake, hdrop]

/-- A block written at a cursor is a block written at its position. -/
theorem writeBlock_flat {m : Message} {c : Cursor} (block : List UInt8) (h : c.RestsIn m) :
    ∃ (m' : Message) (c' : Cursor), m.writeBlock c block = some (m', c') ∧
      m'.masked = m.masked ∧ m'.dataBytes = Flat.write m.dataBytes (c.position m) block ∧
      c'.RestsIn m' ∧
      c'.position m' = c.position m + overlap m.dataBytes.length (c.position m) block := by
  rcases writeBlock_eq block h with ⟨m', c', hwrite, hmasked, hdata, hrests, hposition⟩
  rw [overwrite_eq] at hdata
  exact ⟨m', c', hwrite, hmasked, hdata, hrests, hposition.trans (min_position_add h block)⟩

/-- Writing blocks to a message is writing them to its encrypted bytes. -/
theorem writeBlocks_of_restsIn {m : Message} {c : Cursor} (blocks : List (List UInt8))
    (h : c.RestsIn m) :
    ∃ messages : List Message, m.writeBlocks c blocks = some messages ∧
      messages.map dataBytes = Flat.writeAll m.dataBytes (c.position m) blocks ∧
      ∀ m' ∈ messages, m'.masked = m.masked := by
  -- on the blocks, for every message and cursor: a write leaves another message, and a cursor
  -- that rests in that one
  induction blocks generalizing m c with
  | nil =>
    refine ⟨[], rfl, rfl, ?_⟩
    intro m' hm'
    cases hm'
  | cons block rest ih =>
    rcases writeBlock_flat block h with ⟨m', c', hwrite, hmasked, hdata, hrests, hposition⟩
    rcases ih hrests with ⟨messages, hmessages, hrest, hall⟩
    refine ⟨m' :: messages, ?_, ?_, ?_⟩
    · simp only [writeBlocks, hwrite, hmessages, Option.map_some]
    · rw [hposition, hdata] at hrest
      simp only [List.map_cons, Flat.writeAll, hdata, hrest]
    · intro m'' hm''
      rcases List.mem_cons.1 hm'' with rfl | hmem
      · exact hmasked
      · -- what the later blocks keep, this one has kept before
        exact (hall m'' hmem).trans hmasked

/-- Blocks of any lengths that are written with one cursor from the front replace the encrypted
bytes one after the other, as far as these reach. No write breaks down, and none changes a segment
of another role, a role or a length. -/
theorem writeBlocks_flat (m : Message) (blocks : List (List UInt8)) :
    ∃ messages : List Message, m.writeBlocks {} blocks = some messages ∧
      messages.map dataBytes = Flat.writeAll m.dataBytes 0 blocks ∧
      ∀ m' ∈ messages, m'.masked = m.masked :=
  writeBlocks_of_restsIn blocks (.inl rfl)

/-- The second block goes on behind a segment that is not encrypted and has no room for its last
byte, and the third one has no room at all. -/
example :
    (writeBlocks [⟨.data, [1, 2, 3]⟩, ⟨.signOnly, [9]⟩, ⟨.data, [4]⟩] {}
        [[11, 12], [13, 14, 15], [16]]).bind List.getLast? =
      some [⟨.data, [11, 12, 13]⟩, ⟨.signOnly, [9]⟩, ⟨.data, [14]⟩] := by
  decide

end Message
end Kerberos
