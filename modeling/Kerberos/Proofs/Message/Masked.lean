import Kerberos.Message.Cursor

/-!
# What a write leaves alone

The `masked` form of a message has zeros in place of its encrypted bytes. What a cipher may not
touch is in it: the segments with their roles and lengths, and all other bytes. Where a cursor rests
in a message, and which position among the encrypted bytes that is, depends on the masked form only.
-/

namespace Kerberos

/-! ## Masked messages -/

/-- The segment with zeros in place of encrypted bytes. -/
def Segment.masked (s : Segment) : Segment :=
  if s.role.isEncrypted then { s with bytes := List.replicate s.bytes.length 0 } else s

namespace Segment

theorem masked_of_not_encrypted {s : Segment} (h : s.role.isEncrypted = false) : s.masked = s := by
  simp [masked, h]

theorem role_masked (s : Segment) : s.masked.role = s.role := by
  cases h : s.role.isEncrypted <;> simp [masked, h]

theorem length_bytes_masked (s : Segment) : s.masked.bytes.length = s.bytes.length := by
  cases h : s.role.isEncrypted <;> simp [masked, h]

theorem role_eq_of_masked_eq {s s' : Segment} (h : s'.masked = s.masked) : s'.role = s.role :=
  calc
    s'.role = s'.masked.role := (role_masked s').symm
    _ = s.masked.role := by rw [h]
    _ = s.role := role_masked s

theorem length_bytes_eq_of_masked_eq {s s' : Segment} (h : s'.masked = s.masked) :
    s'.bytes.length = s.bytes.length :=
  calc
    s'.bytes.length = s'.masked.bytes.length := (length_bytes_masked s').symm
    _ = s.masked.bytes.length := by rw [h]
    _ = s.bytes.length := length_bytes_masked s

end Segment

namespace Message

/-- The message with zeros in place of all encrypted bytes: its segments with their roles and
lengths, and the bytes that no cipher may touch. -/
def masked (m : Message) : Message :=
  m.map Segment.masked

theorem masked_cons (s : Segment) (m : Message) : masked (s :: m) = s.masked :: masked m :=
  rfl

theorem masked_append (m m' : Message) : masked (m ++ m') = m.masked ++ m'.masked := by
  simp [masked]

theorem dataLength_masked (m : Message) : m.masked.dataLength = m.dataLength := by
  induction m with
  | nil => rfl
  | cons s rest ih =>
    simp only [masked_cons, dataLength_cons, Segment.role_masked, Segment.length_bytes_masked, ih]

theorem dataLength_eq_of_masked_eq {m m' : Message} (h : m'.masked = m.masked) :
    m'.dataLength = m.dataLength :=
  calc
    m'.dataLength = m'.masked.dataLength := (dataLength_masked m').symm
    _ = m.masked.dataLength := by rw [h]
    _ = m.dataLength := dataLength_masked m

/-- A message is determined by its encrypted bytes and all the rest. -/
theorem eq_of_masked_eq {m m' : Message} (hmask : m'.masked = m.masked)
    (hdata : m'.dataBytes = m.dataBytes) : m' = m := by
  induction m generalizing m' with
  | nil =>
    cases m' with
    | nil => rfl
    | cons s' rest' => simp [masked] at hmask
  | cons s rest ih =>
    cases m' with
    | nil => simp [masked] at hmask
    | cons s' rest' =>
      rw [masked_cons, masked_cons] at hmask
      rcases List.cons.inj hmask with ⟨hhead, htail⟩
      have hrole : s'.role = s.role := Segment.role_eq_of_masked_eq hhead
      rw [dataBytes_cons, dataBytes_cons, hrole] at hdata
      cases henc : s.role.isEncrypted with
      | true =>
        -- the data of the head is as long as before, so the heads and the tails agree
        simp only [henc, if_true] at hdata
        rcases List.append_inj hdata (Segment.length_bytes_eq_of_masked_eq hhead) with
          ⟨hbytes, hrest⟩
        have hsegment : s' = s := by
          cases s; cases s'; simp_all
        rw [hsegment, ih htail hrest]
      | false =>
        simp only [henc, Bool.false_eq_true, if_false, List.nil_append] at hdata
        have hsegment : s' = s := by
          rwa [Segment.masked_of_not_encrypted henc,
            Segment.masked_of_not_encrypted (hrole ▸ henc)] at hhead
        rw [hsegment, ih htail hdata]

end Message

/-! ## Where a cursor rests -/

namespace Cursor

/-- Whether the cursor is at the start of a segment, past all segments, or in a data segment and
not beyond its end. -/
def RestsIn (c : Cursor) (m : Message) : Prop :=
  c.offset = 0 ∨
    ∃ s, m[c.segment]? = some s ∧ s.role.isEncrypted = true ∧ c.offset ≤ s.bytes.length

/-- The number of encrypted bytes in front of the cursor. -/
def position (c : Cursor) (m : Message) : Nat :=
  Message.dataLength (m.take c.segment) + c.offset

theorem position_start (m : Message) : position {} m = 0 :=
  rfl

theorem position_first (offset : Nat) (m : Message) : position ⟨0, offset⟩ m = offset := by
  simp [position, Message.dataLength]

theorem restsIn_shift (n : Nat) (c : Cursor) (m : Message) :
    (c.shift n).RestsIn m ↔ c.RestsIn (m.drop n) := by
  simp [RestsIn, shift, List.getElem?_drop]

theorem position_shift (n : Nat) (c : Cursor) (m : Message) :
    (c.shift n).position m = Message.dataLength (m.take n) + c.position (m.drop n) := by
  simp only [position, shift, List.take_add, ← Message.length_dataBytes, Message.dataBytes_append,
    List.length_append, Nat.add_assoc]

theorem restsIn_shift_one {c : Cursor} {rest : Message} (h : c.RestsIn rest) (s : Segment) :
    (c.shift 1).RestsIn (s :: rest) :=
  (restsIn_shift 1 c (s :: rest)).2 h

theorem position_shift_one (c : Cursor) (s : Segment) (rest : Message) :
    (c.shift 1).position (s :: rest) =
      (if s.role.isEncrypted then s.bytes.length else 0) + c.position rest := by
  have hhead : Message.dataLength [s] = if s.role.isEncrypted then s.bytes.length else 0 :=
    Message.dataLength_cons s []
  simpa [hhead] using position_shift 1 c (s :: rest)

/-- A cursor seen from its own segment. -/
theorem restsIn_drop {m : Message} {c : Cursor} (h : c.RestsIn m) :
    RestsIn ⟨0, c.offset⟩ (m.drop c.segment) :=
  (restsIn_shift c.segment ⟨0, c.offset⟩ m).1 h

theorem restsIn_masked (c : Cursor) (m : Message) : c.RestsIn m.masked ↔ c.RestsIn m := by
  unfold RestsIn Message.masked
  rw [List.getElem?_map]
  cases m[c.segment]? with
  | none => simp
  | some s => simp [Segment.role_masked, Segment.length_bytes_masked]

theorem position_masked (c : Cursor) (m : Message) : c.position m.masked = c.position m := by
  have htake : m.masked.take c.segment = Message.masked (m.take c.segment) := by
    simp [Message.masked]
  rw [position, htake, Message.dataLength_masked, position]

theorem RestsIn.of_masked_eq {c : Cursor} {m m' : Message} (h : m'.masked = m.masked)
    (hc : c.RestsIn m) : c.RestsIn m' := by
  have hmasked : c.RestsIn m.masked := (restsIn_masked c m).2 hc
  rw [← h] at hmasked
  exact (restsIn_masked c m').1 hmasked

theorem position_eq_of_masked_eq {m m' : Message} (h : m'.masked = m.masked) (c : Cursor) :
    c.position m' = c.position m :=
  calc
    c.position m' = c.position m'.masked := (position_masked c m').symm
    _ = c.position m.masked := by rw [h]
    _ = c.position m := position_masked c m

/-! ## Cursors into the first segment -/

variable {offset : Nat} {s : Segment} {rest : Message}

theorem RestsIn.offset_le (h : RestsIn ⟨0, offset⟩ (s :: rest)) : offset ≤ s.bytes.length := by
  rcases h with hzero | ⟨s', hs', -, hle⟩
  · have hstart : offset = 0 := hzero
    rw [hstart]
    exact Nat.zero_le _
  · have hsame : s = s' := by simpa using hs'
    rw [hsame]
    exact hle

theorem RestsIn.offset_eq_zero (h : RestsIn ⟨0, offset⟩ (s :: rest))
    (henc : s.role.isEncrypted = false) : offset = 0 := by
  rcases h with hzero | ⟨s', hs', hs'enc, -⟩
  · exact hzero
  · have hsame : s = s' := by simpa using hs'
    rw [← hsame, henc] at hs'enc
    cases hs'enc

theorem RestsIn.offset_eq_zero_of_nil (h : RestsIn ⟨0, offset⟩ []) : offset = 0 := by
  simpa [RestsIn] using h

end Cursor
end Kerberos
