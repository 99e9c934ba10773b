import Kerberos.Proofs.Message.Masked

/-!
# Messages as flat byte strings

To a cipher a message is one byte string, `Message.dataBytes`, and a cursor is a position in it.
Reading a block takes the bytes at that position and writing a block replaces them, wherever the
boundaries of segments lie and whatever other segments stand between: `readBlock_eq` and
`writeBlock_eq`.
-/

namespace Kerberos
namespace Message

/-! ## Overwriting a byte string -/

theorem overwrite_nil (offset : Nat) (new : List UInt8) : overwrite [] offset new = [] := by
  simp [overwrite]

theorem length_overwrite (bytes : List UInt8) (offset : Nat) (new : List UInt8) :
    (overwrite bytes offset new).length = bytes.length := by
  simp only [overwrite, List.length_append, List.length_take, List.length_drop]
  omega

/-- Bytes that fit into the first part leave the second part alone. -/
theorem overwrite_append_of_le {first : List UInt8} {offset : Nat} {new : List UInt8}
    (h : offset + new.length ≤ first.length) (second : List UInt8) :
    overwrite (first ++ second) offset new = overwrite first offset new ++ second := by
  have hoffset : offset - first.length = 0 := by omega
  have hend : offset + new.length - first.length = 0 := by omega
  have hroom : new.length ≤ first.length + second.length - offset := by omega
  have hroom' : new.length ≤ first.length - offset := by omega
  simp [overwrite, List.take_append, List.drop_append, hoffset, hend,
    List.take_of_length_le hroom, List.take_of_length_le hroom']

/-- Bytes that do not fit into the first part go on at the start of the second. -/
theorem overwrite_append_of_ge {first : List UInt8} {offset : Nat} {new : List UInt8}
    (hoffset : offset ≤ first.length) (h : first.length ≤ offset + new.length)
    (second : List UInt8) :
    overwrite (first ++ second) offset new =
      overwrite first offset new ++ overwrite second 0 (new.drop (first.length - offset)) := by
  have htake : offset - first.length = 0 := by omega
  have hroom : first.length + second.length - offset = (first.length - offset) + second.length := by
    omega
  have hskip : new.length - (first.length - offset) = offset + new.length - first.length := by
    omega
  simp [overwrite, List.take_append, List.drop_append, htake, hroom, hskip, List.take_add,
    List.drop_eq_nil_of_le h]

theorem overwrite_append_length_add (first second : List UInt8) (offset : Nat)
    (new : List UInt8) :
    overwrite (first ++ second) (first.length + offset) new =
      first ++ overwrite second offset new := by
  have hroom : first.length + second.length - (first.length + offset) = second.length - offset := by
    omega
  simp [overwrite, hroom, Nat.add_assoc, List.take_length_add_append]

theorem overwrite_middle {first old new : List UInt8} (h : new.length = old.length)
    (second : List UInt8) :
    overwrite (first ++ (old ++ second)) first.length new = first ++ (new ++ second) := by
  have hroom : new.length ≤ old.length + second.length := by omega
  simp [overwrite, List.take_of_length_le hroom, List.drop_append, h]

/-! ## Walks from the first segment -/

/-- A walk collects the bytes from its offset on and ends after them. -/
theorem gather_eq (m : Message) {offset : Nat} (count : Nat) (h : Cursor.RestsIn ⟨0, offset⟩ m) :
    ∃ c : Cursor, gather m offset count = some ((m.dataBytes.drop offset).take count, c) ∧
      c.RestsIn m ∧ c.position m = min (offset + count) m.dataLength := by
  induction m generalizing offset count with
  | nil =>
    refine ⟨⟨0, 0⟩, ?_, .inl rfl, ?_⟩
    · simp [gather, dataBytes_nil, h.offset_eq_zero_of_nil]
    · simp [Cursor.position, dataLength]
  | cons s rest ih =>
    cases henc : s.role.isEncrypted with
    | false =>
      -- the segment is skipped, and the walk starts at the one after it
      have hzero := h.offset_eq_zero henc
      subst hzero
      rcases ih count (.inl rfl) with ⟨c, hgather, hrests, hposition⟩
      refine ⟨c.shift 1, ?_, Cursor.restsIn_shift_one hrests s, ?_⟩
      · simp [gather, henc, hgather, dataBytes_cons]
      · simp [Cursor.position_shift_one, hposition, dataLength_cons, henc]
    | true =>
      have hle := h.offset_le
      by_cases hfit : offset + count ≤ s.bytes.length
      · -- all bytes lie in this segment
        refine ⟨⟨0, offset + count⟩, ?_, .inr ⟨s, rfl, henc, hfit⟩, ?_⟩
        · have hinside : count ≤ (s.bytes.drop offset).length := by
            rw [List.length_drop]
            omega
          have hfound : ((s.bytes.drop offset).take count).length = count :=
            List.length_take_of_le hinside
          simp only [gather, henc, if_true, if_neg (Nat.not_lt.2 hle), hfound, dataBytes_cons,
            List.drop_append_of_le_length hle, List.take_append_of_le_length hinside]
        · simp only [Cursor.position_first, dataLength_cons, henc, if_true]
          omega
      · -- the rest of this segment is taken, and the walk goes on in the next ones
        have hshort : (s.bytes.drop offset).length < count := by
          rw [List.length_drop]
          omega
        have htaken : (s.bytes.drop offset).take count = s.bytes.drop offset :=
          List.take_of_length_le (Nat.le_of_lt hshort)
        rcases ih (count - (s.bytes.drop offset).length) (.inl rfl) with
          ⟨c, hgather, hrests, hposition⟩
        refine ⟨c.shift 1, ?_, Cursor.restsIn_shift_one hrests s, ?_⟩
        · simp only [gather, henc, if_true, if_neg (Nat.not_lt.2 hle), htaken,
            if_neg (Nat.ne_of_lt hshort), hgather, Option.map_some, dataBytes_cons,
            List.drop_append_of_le_length hle, List.take_append, List.drop_zero]
        · simp only [Cursor.position_shift_one, hposition, dataLength_cons, henc, if_true,
            List.length_drop]
          omega

/-- A walk replaces the bytes from its offset on, leaves all else alone and ends after them. -/
theorem scatter_eq (m : Message) {offset : Nat} (new : List UInt8)
    (h : Cursor.RestsIn ⟨0, offset⟩ m) :
    ∃ (m' : Message) (c : Cursor), scatter m offset new = some (m', c) ∧
      m'.masked = m.masked ∧ m'.dataBytes = overwrite m.dataBytes offset new ∧
      c.RestsIn m ∧ c.position m = min (offset + new.length) m.dataLength := by
  induction m generalizing offset new with
  | nil =>
    refine ⟨[], ⟨0, 0⟩, ?_, rfl, ?_, .inl rfl, ?_⟩
    · simp [scatter, h.offset_eq_zero_of_nil]
    · exact (overwrite_nil offset new).symm
    · simp [Cursor.position, dataLength]
  | cons s rest ih =>
    cases henc : s.role.isEncrypted with
    | false =>
      -- the segment is skipped, and the walk starts at the one after it
      have hzero := h.offset_eq_zero henc
      subst hzero
      rcases ih new (.inl rfl) with ⟨rest', c, hscatter, hmask, hdata, hrests, hposition⟩
      refine ⟨s :: rest', c.shift 1, ?_, ?_, ?_, Cursor.restsIn_shift_one hrests s, ?_⟩
      · simp [scatter, henc, hscatter]
      · simp only [masked_cons, hmask]
      · simp [dataBytes_cons, henc, hdata]
      · simp [Cursor.position_shift_one, hposition, dataLength_cons, henc]
    | true =>
      have hle := h.offset_le
      have hmasked : Segment.masked { s with bytes := overwrite s.bytes offset new } =
          s.masked := by
        simp [Segment.masked, henc, length_overwrite]
      by_cases hfit : offset + new.length ≤ s.bytes.length
      · -- all bytes go into this segment
        have hroom : new.length ≤ s.bytes.length - offset := by omega
        refine ⟨{ s with bytes := overwrite s.bytes offset new } :: rest,
          ⟨0, offset + new.length⟩, ?_, ?_, ?_, .inr ⟨s, rfl, henc, hfit⟩, ?_⟩
        · simp only [scatter, henc, if_true, if_neg (Nat.not_lt.2 hle), if_pos hroom]
        · simp only [masked_cons, hmasked]
        · simp only [dataBytes_cons, henc, if_true, overwrite_append_of_le hfit]
        · simp only [Cursor.position_first, dataLength_cons, henc, if_true]
          omega
      · -- this segment is filled up, and the walk goes on in the next ones
        have hroom : ¬new.length ≤ s.bytes.length - offset := by omega
        rcases ih (new.drop (s.bytes.length - offset)) (.inl rfl) with
          ⟨rest', c, hscatter, hmask, hdata, hrests, hposition⟩
        refine ⟨{ s with bytes := overwrite s.bytes offset new } :: rest', c.shift 1,
          ?_, ?_, ?_, Cursor.restsIn_shift_one hrests s, ?_⟩
        · simp only [scatter, henc, if_true, if_neg (Nat.not_lt.2 hle), if_neg hroom, hscatter,
            Option.map_some]
        · simp only [masked_cons, hmasked, hmask]
        · simp only [dataBytes_cons, henc, if_true, hdata,
            overwrite_append_of_ge hle (Nat.le_of_not_le hfit)]
        · simp only [Cursor.position_shift_one, hposition, dataLength_cons, henc, if_true,
            List.length_drop]
          omega

/-! ## Blocks -/

/-- The encrypted bytes from a position on, `count` at most. -/
def bytesAt (m : Message) (position count : Nat) : List UInt8 :=
  (m.dataBytes.drop position).take count

theorem length_bytesAt (m : Message) (position count : Nat) :
    (m.bytesAt position count).length = min count (m.dataLength - position) := by
  rw [bytesAt, List.length_take, List.length_drop, length_dataBytes]

theorem dataBytes_split (m : Message) (c : Cursor) :
    m.dataBytes = dataBytes (m.take c.segment) ++ dataBytes (m.drop c.segment) := by
  rw [← dataBytes_append, List.take_append_drop]

theorem dataLength_split (m : Message) (c : Cursor) :
    m.dataLength = dataLength (m.take c.segment) + dataLength (m.drop c.segment) := by
  simpa only [List.length_append, length_dataBytes] using
    congrArg List.length (dataBytes_split m c)

/-- A walk that ends in the segments from that of a cursor on ends as far behind the cursor. -/
theorem position_shift_segment {m : Message} {c c' : Cursor} {count : Nat}
    (h : c'.position (m.drop c.segment) =
      min (c.offset + count) (dataLength (m.drop c.segment))) :
    (c'.shift c.segment).position m = min (c.position m + count) m.dataLength :=
  calc
    (c'.shift c.segment).position m
        = dataLength (m.take c.segment) + c'.position (m.drop c.segment) :=
          Cursor.position_shift c.segment c' m
    _ = dataLength (m.take c.segment) +
          min (c.offset + count) (dataLength (m.drop c.segment)) := by rw [h]
    _ = min (dataLength (m.take c.segment) + (c.offset + count))
          (dataLength (m.take c.segment) + dataLength (m.drop c.segment)) :=
          Nat.add_min_add_left _ _ _ |>.symm
    _ = min (c.position m + count) m.dataLength := by
          rw [← dataLength_split, Cursor.position, Nat.add_assoc]

/-- Reading a block takes the bytes at the position of the cursor, as many as there are. -/
theorem readBlock_eq {m : Message} {c : Cursor} (block : List UInt8) (h : c.RestsIn m) :
    ∃ c' : Cursor, c'.RestsIn m ∧
      c'.position m = min (c.position m + block.length) m.dataLength ∧
      m.readBlock c block = some
        { full := (m.bytesAt (c.position m) block.length).length == block.length && !block.isEmpty
          block :=
            if (m.bytesAt (c.position m) block.length).isEmpty then block
            else m.bytesAt (c.position m) block.length ++ List.replicate
              (block.length - (m.bytesAt (c.position m) block.length).length) 0
          cursor := c' } := by
  rcases gather_eq (m.drop c.segment) block.length (Cursor.restsIn_drop h) with
    ⟨c', hgather, hrests, hposition⟩
  have hfound : ((dataBytes (m.drop c.segment)).drop c.offset).take block.length =
      m.bytesAt (c.position m) block.length := by
    rw [bytesAt, dataBytes_split m c, Cursor.position, ← length_dataBytes,
      List.drop_length_add_append]
  -- the walk starts at the segment of the cursor, and its end is shifted back
  refine ⟨c'.shift c.segment, (Cursor.restsIn_shift _ _ _).2 hrests,
    position_shift_segment hposition, ?_⟩
  rw [readBlock, hgather, hfound, Option.map_some]

/-- Writing a block replaces the bytes at the position of the cursor and leaves all else alone. -/
theorem writeBlock_eq {m : Message} {c : Cursor} (block : List UInt8) (h : c.RestsIn m) :
    ∃ (m' : Message) (c' : Cursor), m.writeBlock c block = some (m', c') ∧
      m'.masked = m.masked ∧ m'.dataBytes = overwrite m.dataBytes (c.position m) block ∧
      c'.RestsIn m' ∧ c'.position m' = min (c.position m + block.length) m.dataLength := by
  rcases scatter_eq (m.drop c.segment) block (Cursor.restsIn_drop h) with
    ⟨rest, c', hscatter, hmask, hdata, hrests, hposition⟩
  have hmasked : Message.masked (m.take c.segment ++ rest) = m.masked :=
    calc
      masked (m.take c.segment ++ rest)
          = masked (m.take c.segment) ++ masked rest := masked_append _ _
      _ = masked (m.take c.segment) ++ masked (m.drop c.segment) := by rw [hmask]
      _ = m.masked := by rw [← masked_append, List.take_append_drop]
  have hdata' : dataBytes (m.take c.segment ++ rest) =
      overwrite m.dataBytes (c.position m) block :=
    calc
      dataBytes (m.take c.segment ++ rest)
          = dataBytes (m.take c.segment) ++
              overwrite (dataBytes (m.drop c.segment)) c.offset block := by
            rw [dataBytes_append, hdata]
      _ = overwrite (dataBytes (m.take c.segment) ++ dataBytes (m.drop c.segment))
            (c.position m) block := by
            rw [Cursor.position, ← length_dataBytes, overwrite_append_length_add]
      _ = overwrite m.dataBytes (c.position m) block := by rw [← dataBytes_split]
  refine ⟨m.take c.segment ++ rest, c'.shift c.segment, ?_, hmasked, hdata', ?_, ?_⟩
  · rw [writeBlock, hscatter, Option.map_some]
  · apply Cursor.RestsIn.of_masked_eq hmasked
    exact (Cursor.restsIn_shift _ _ _).2 hrests
  · rw [Cursor.position_eq_of_masked_eq hmasked]
    exact position_shift_segment hposition

end Message
end Kerberos
