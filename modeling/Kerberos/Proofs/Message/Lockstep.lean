import Kerberos.Proofs.Message.Flat

/-!
# Reading and writing in step

Reading a block and writing one of the same length take the same way through a message. This holds
from every cursor: one that was left over from another message, one between data segments, one
behind the last segment. Either both walks have a result, and then they end at the same place, or
neither has, because the cursor points beyond the first data segment it comes to. A block that is
written where it was read changes nothing. Main statement: `read_write_in_step`.
-/

namespace Kerberos

/-- Whether a cursor points beyond the end of the first data segment at or behind its own segment. -/
def Cursor.IsStale (c : Cursor) (m : Message) : Prop :=
  ∃ s ∈ (m.drop c.segment).find? (·.role.isEncrypted), s.bytes.length < c.offset

instance (c : Cursor) (m : Message) : Decidable (c.IsStale m) :=
  inferInstanceAs (Decidable
    (∃ s ∈ (m.drop c.segment).find? (·.role.isEncrypted), s.bytes.length < c.offset))

namespace Message

variable {m : Message} {offset count : Nat} {found new : List UInt8} {c : Cursor}

/-! ## Walks without a result -/

theorem gather_eq_none_iff :
    gather m offset count = none ↔
      ∃ s ∈ m.find? (·.role.isEncrypted), s.bytes.length < offset := by
  fun_induction gather m offset count with
  | case1 => simp
  | case2 s rest offset count henc hlt => simp [henc, hlt]
  | case3 s rest offset count henc hle found hfull => simp [henc, hle]
  | case4 s rest offset count henc hle found hshort ih =>
    -- the walk goes on at the start of a segment, which no segment is too short for
    simp [henc, hle, ih]
  | case5 s rest offset count henc ih => simp [henc, ih]

theorem scatter_eq_none_iff :
    scatter m offset new = none ↔
      ∃ s ∈ m.find? (·.role.isEncrypted), s.bytes.length < offset := by
  fun_induction scatter m offset new with
  | case1 => simp
  | case2 s rest offset new henc hlt => simp [henc, hlt]
  | case3 s rest offset new henc hle room s' hfits => simp [henc, hle]
  | case4 s rest offset new henc hle room s' hshort ih => simp [henc, hle, ih]
  | case5 s rest offset new henc ih => simp [henc, ih]

/-! ## Walks with a result -/

theorem length_le_of_gather :
    ∀ {found : List UInt8} {c : Cursor},
      gather m offset count = some (found, c) → found.length ≤ count := by
  fun_induction gather m offset count with
  | case1 =>
    rintro _ _ ⟨⟩
    exact Nat.zero_le _
  | case2 s rest offset count henc hlt =>
    intro _ _ h
    cases h
  | case3 s rest offset count henc hle first =>
    rename_i hfull
    rintro _ _ ⟨⟩
    exact Nat.le_of_eq hfull
  | case4 s rest offset count henc hle first hshort =>
    rename_i ih
    intro found c h
    rcases Option.map_eq_some_iff.1 h with ⟨⟨more, c'⟩, hmore, heq⟩
    cases heq
    have hfirst : first.length ≤ count := List.length_take_le count (s.bytes.drop offset)
    have hrest : more.length ≤ count - first.length := ih hmore
    rw [List.length_append]
    omega
  | case5 s rest offset count henc ih =>
    intro found c h
    rcases Option.map_eq_some_iff.1 h with ⟨⟨more, c'⟩, hmore, heq⟩
    cases heq
    exact ih hmore

/-- A segment has all the bytes that are asked for exactly if it has room for as many. -/
theorem length_piece_eq_iff {bytes : List UInt8} :
    ((bytes.drop offset).take count).length = count ↔ count ≤ bytes.length - offset := by
  rw [List.length_take, List.length_drop]
  omega

/-- Bytes that begin with those that are already there change nothing. -/
theorem overwrite_eq_self {bytes : List UInt8}
    (h : (bytes.drop offset).take new.length <+: new) : overwrite bytes offset new = bytes := by
  have hwritten : new.take (bytes.length - offset) = (bytes.drop offset).take new.length := by
    rw [List.prefix_iff_eq_take.1 h, List.length_take, List.length_drop, List.take_eq_take_iff]
    omega
  rw [overwrite, hwritten, ← List.drop_drop, List.take_append_drop, List.take_append_drop]

/-- A walk that writes ends where the walk that reads as many bytes does. If its bytes begin with
those that are read, it changes nothing; what it has beyond them finds no room. -/
theorem scatter_of_gather :
    ∀ {found new : List UInt8} {c : Cursor}, gather m offset count = some (found, c) →
      new.length = count →
        ∃ m', scatter m offset new = some (m', c) ∧ (found <+: new → m' = m) := by
  -- along the walk that reads, for whatever bytes are left to be written
  fun_induction gather m offset count with
  | case1 =>
    rintro _ new _ ⟨⟩ hlength
    exact ⟨[], rfl, fun _ => rfl⟩
  | case2 s rest offset count henc hlt =>
    intro _ _ _ h
    cases h
  | case3 s rest offset count henc hle first =>
    rename_i hfull
    rintro _ new _ ⟨⟩ rfl
    have hroom : new.length ≤ s.bytes.length - offset := length_piece_eq_iff.1 hfull
    refine ⟨{ s with bytes := overwrite s.bytes offset new } :: rest, ?_, ?_⟩
    · simp only [scatter, henc, if_true, if_neg hle, if_pos hroom]
    · intro hbegins
      rw [overwrite_eq_self hbegins]
  | case4 s rest offset count henc hle first hshort =>
    rename_i ih
    rintro found new c h rfl
    rcases Option.map_eq_some_iff.1 h with ⟨⟨more, c'⟩, hmore, heq⟩
    cases heq
    -- the segment has too few bytes, so it is read to its end and written to its end
    have hlt : ¬new.length ≤ s.bytes.length - offset := mt length_piece_eq_iff.2 hshort
    have hroom : first.length = s.bytes.length - offset := by
      rw [List.length_take, List.length_drop]
      omega
    have hrest : (new.drop (s.bytes.length - offset)).length = new.length - first.length := by
      rw [List.length_drop, hroom]
    rcases ih hmore hrest with ⟨rest', hscatter, hkeeps⟩
    refine ⟨{ s with bytes := overwrite s.bytes offset new } :: rest', ?_, ?_⟩
    · simp only [scatter, henc, if_true, if_neg hle, if_neg hlt, hscatter, Option.map_some]
    · intro hbegins
      have hfirst : first <+: new := (List.prefix_append first more).trans hbegins
      have hmore : more <+: new.drop (s.bytes.length - offset) := by
        rcases hbegins with ⟨tail, hnew⟩
        rw [← hnew, ← hroom, List.append_assoc, List.drop_left]
        exact List.prefix_append more tail
      rw [overwrite_eq_self hfirst, hkeeps hmore]
  | case5 s rest offset count henc ih =>
    intro found new c h hlength
    rcases Option.map_eq_some_iff.1 h with ⟨⟨more, c'⟩, hmore, heq⟩
    cases heq
    rcases ih hmore hlength with ⟨rest', hscatter, hkeeps⟩
    refine ⟨s :: rest', ?_, ?_⟩
    · simp only [scatter, henc, Bool.false_eq_true, if_false, hscatter, Option.map_some]
    · intro hbegins
      rw [hkeeps hbegins]

/-! ## Blocks -/

theorem readBlock_eq_none_iff {block : List UInt8} :
    m.readBlock c block = none ↔ c.IsStale m := by
  rw [readBlock, Option.map_eq_none_iff, gather_eq_none_iff, Cursor.IsStale]

theorem writeBlock_eq_none_iff : m.writeBlock c new = none ↔ c.IsStale m := by
  rw [writeBlock, Option.map_eq_none_iff, scatter_eq_none_iff, Cursor.IsStale]

/-- A write from the cursor of a read ends at the cursor that the read leaves, and changes nothing if
it writes the block that was read. -/
theorem writeBlock_of_readBlock {block : List UInt8} {r : BlockRead}
    (h : m.readBlock c block = some r) (hlength : new.length = block.length) :
    ∃ m', m.writeBlock c new = some (m', r.cursor) ∧ (new = r.block → m' = m) := by
  rcases Option.map_eq_some_iff.1 h with ⟨⟨found, c'⟩, hgather, rfl⟩
  rcases scatter_of_gather hgather hlength with ⟨rest, hscatter, hkeeps⟩
  refine ⟨m.take c.segment ++ rest, ?_, ?_⟩
  · rw [writeBlock, hscatter, Option.map_some]
  · rintro rfl
    have hbegins : found <+: if found.isEmpty then block
        else found ++ List.replicate (block.length - found.length) 0 := by
      -- a block that reached no byte begins with the bytes found, for there are none
      split
      · rename_i hempty
        rw [List.isEmpty_iff.1 hempty]
        exact List.nil_prefix
      · exact List.prefix_append _ _
    rw [hkeeps hbegins, List.take_append_drop]

theorem length_block_of_readBlock {block : List UInt8} {r : BlockRead}
    (h : m.readBlock c block = some r) : r.block.length = block.length := by
  rcases Option.map_eq_some_iff.1 h with ⟨⟨found, c'⟩, hgather, rfl⟩
  have hle : found.length ≤ block.length := length_le_of_gather hgather
  cases hempty : found.isEmpty with
  | true => simp only [hempty, if_true]
  | false =>
    simp only [hempty, Bool.false_eq_true, if_false, List.length_append, List.length_replicate]
    exact Nat.add_sub_cancel' hle

/-- For two blocks of the same length, from any cursor, the read of the one and the write of the
other break down together, and do so exactly if the first data segment at or behind the cursor ends
in front of it. Otherwise both leave the same cursor, and writing the block that was read from where
it was read leaves the whole message as it is. -/
theorem read_write_in_step (m : Message) (c : Cursor) (block new : List UInt8)
    (hlength : new.length = block.length) :
    (m.readBlock c block = none ↔ m.writeBlock c new = none) ∧
      (m.readBlock c block = none ↔ c.IsStale m) ∧
      (¬c.IsStale m → ∃ (r : BlockRead) (m' : Message),
        m.readBlock c block = some r ∧ m.writeBlock c new = some (m', r.cursor) ∧
          m.writeBlock c r.block = some (m, r.cursor)) := by
  refine ⟨readBlock_eq_none_iff.trans writeBlock_eq_none_iff.symm, readBlock_eq_none_iff, ?_⟩
  intro hfresh
  cases hread : m.readBlock c block with
  | none => exact absurd (readBlock_eq_none_iff.1 hread) hfresh
  | some r =>
    rcases writeBlock_of_readBlock hread hlength with ⟨m', hwrite, -⟩
    rcases writeBlock_of_readBlock hread (length_block_of_readBlock hread) with
      ⟨same, hback, hkeeps⟩
    rw [hkeeps rfl] at hback
    exact ⟨r, m', rfl, hwrite, hback⟩

/-- A cursor with an offset in front of a segment that is not encrypted, and a block for which the
data ends too early. One byte further the cursor is beyond the data segment it comes to. -/
theorem read_write_in_step_between_segments :
    let m : Message := [⟨.header, [1]⟩, ⟨.data, [2, 3]⟩, ⟨.signOnly, []⟩, ⟨.data, [4]⟩]
    let block : List UInt8 := [7, 7, 7]
    let new : List UInt8 := [8, 9, 10]
    new.length = block.length ∧ ¬Cursor.IsStale ⟨0, 1⟩ m ∧ Cursor.IsStale ⟨0, 3⟩ m ∧
      m.writeBlock ⟨0, 1⟩ [3, 4, 0] = some (m, ⟨4, 0⟩) ∧ m.writeBlock ⟨0, 3⟩ new = none := by
  intro m block new
  have hlength : new.length = block.length := rfl
  have hfresh : ¬Cursor.IsStale ⟨0, 1⟩ m := by decide
  have hstale : Cursor.IsStale ⟨0, 3⟩ m := by decide
  have hread : m.readBlock ⟨0, 1⟩ block = some ⟨false, [3, 4, 0], ⟨4, 0⟩⟩ := by decide
  rcases (read_write_in_step m ⟨0, 1⟩ block new hlength).2.2 hfresh with ⟨r, -, hr, -, hback⟩
  rcases read_write_in_step m ⟨0, 3⟩ block new hlength with ⟨hboth, hnone, -⟩
  rw [hread] at hr
  cases hr
  exact ⟨hlength, hfresh, hstale, hback, hboth.1 (hnone.2 hstale)⟩

end Message
end Kerberos
