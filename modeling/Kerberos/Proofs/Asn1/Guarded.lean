import Kerberos.Proofs.Asn1.Reachable

/-!
# Accesses that stay inside a buffer

The operations of a buffer subtract positions and take parts of its storage. Each of them has a
guarded form here, which has no result if a subtraction would go below zero or if a part would not
lie inside the storage. On buffers that can be reached the guarded forms have a result, and it is
that of the operations: `Reachable.positions_in_range`.
-/

namespace Kerberos

/-- The difference of two sizes, if it is a size. -/
def Size.sub? (a b : Nat) : Option Nat :=
  if b ≤ a then some (a - b) else none

namespace Asn1

/-- The bytes from position `i` up to position `j`, if these are in order and in range. -/
def part? (bytes : List UInt8) (i j : Nat) : Option (List UInt8) :=
  if i ≤ j ∧ j ≤ bytes.length then some ((bytes.drop i).take (j - i)) else none

theorem part?_eq {bytes : List UInt8} {i j : Nat} (hij : i ≤ j) (hj : j ≤ bytes.length) :
    part? bytes i j = some ((bytes.drop i).take (j - i)) :=
  if_pos ⟨hij, hj⟩

theorem part?_add {bytes : List UInt8} {i n : Nat} (h : i + n ≤ bytes.length) :
    part? bytes i (i + n) = some ((bytes.drop i).take n) := by
  rw [part?_eq (Nat.le_add_right i n) h, Nat.add_sub_cancel_left]

namespace Buffer

/-! ## Guarded forms -/

def remaining? (b : Buffer) : Option Nat :=
  if b.hasStorage then Size.sub? b.limit b.next else some 0

def length? (b : Buffer) : Option Nat :=
  Size.sub? b.next b.base

def raw? (b : Buffer) : Option (List UInt8) :=
  part? b.storage.bytes b.base b.next

def toData? (b : Buffer) : Option (List UInt8) :=
  b.raw?.map List.reverse

/-- The bytes in use are copied into storage that is larger. -/
def expand? (b : Buffer) (missing : Nat) : Option (Outcome Error Buffer Unit) :=
  match b.storage with
  | .wrapped _ => some ⟨.error .overrun, b⟩
  | .empty => grow [] 0
  | .owned room => grow room b.limit
where
  grow (room : List UInt8) (size : Nat) : Option (Outcome Error Buffer Unit) :=
    let added := max missing increment
    if Size.largestAllocation < size + added then some ⟨.error .outOfMemory, b⟩
    else
      (part? room 0 size).map fun used =>
        ⟨.ok (), { b with
          storage := .owned (used ++ List.replicate added 0), limit := size + added }⟩

def reserve? (b : Buffer) (n : Nat) : Option (Outcome Error Buffer Unit) :=
  b.remaining?.bind fun free =>
    if free < n then (Size.sub? n free).bind b.expand? else some ⟨.ok (), b⟩

/-- The part of the storage that bytes are to be written over is taken first. -/
def place? (b : Buffer) (bytes : List UInt8) : Option Buffer :=
  match b.storage with
  | .owned room => (part? room b.next (b.next + bytes.length)).map fun _ => b.place bytes
  | _ => some b

def insert? (b : Buffer) (bytes : List UInt8) : Option (Outcome Error Buffer Unit) :=
  if b.isWrapped then some ⟨.error .overrun, b⟩
  else
    (b.reserve? bytes.length).bind fun reserved =>
      match reserved with
      | ⟨.error e, b'⟩ => some ⟨.error e, b'⟩
      | ⟨.ok (), b'⟩ => (b'.place? bytes).map fun b'' => ⟨.ok (), b''⟩

def removeOctets? (b : Buffer) (n : Nat) : Option (Outcome Error Buffer (List UInt8)) :=
  b.remaining?.bind fun free =>
    if free < n then some ⟨.error .overrun, b⟩
    else
      (part? b.storage.bytes b.next (b.next + n)).map fun read =>
        ⟨.ok read, { b with next := b.next + n }⟩

/-! ## They agree with the operations -/

namespace WellFormed

variable {b : Buffer}

theorem remaining?_eq (h : b.WellFormed) : b.remaining? = some b.remaining := by
  rw [remaining?, remaining, Size.sub?, if_pos h.next_le_limit]
  cases b.hasStorage with
  | true => rfl
  | false => rfl

theorem length?_eq (h : b.WellFormed) : b.length? = some b.length :=
  if_pos h.base_le_next

theorem raw?_eq (h : b.WellFormed) : b.raw? = some b.raw :=
  part?_eq h.base_le_next (Nat.le_trans h.next_le_limit h.limit_le_length)

theorem toData?_eq (h : b.WellFormed) : b.toData? = some b.toData := by
  rw [toData?, h.raw?_eq]
  rfl

/-- A buffer that owns its storage uses all of it. -/
theorem expand?_eq (h : b.WellFormed) (missing : Nat) :
    b.expand? missing = some (b.expand missing) := by
  -- growing copies a part of the old storage, and nothing else can be out of range
  have hgrow : ∀ (room : List UInt8) (size : Nat), size ≤ room.length →
      expand?.grow b missing room size = some (expand.grow b missing room size) := by
    intro room size hsize
    rw [expand?.grow, expand.grow, part?_eq (Nat.zero_le size) hsize]
    by_cases hlarge : Size.largestAllocation < size + max missing increment
    · rw [if_pos hlarge, if_pos hlarge]
    · rw [if_neg hlarge, if_neg hlarge]
      rfl
  cases hstorage : b.storage with
  | empty =>
    simp only [expand?, expand, hstorage]
    exact hgrow [] 0 (Nat.le_refl 0)
  | owned room =>
    simp only [expand?, expand, hstorage]
    exact hgrow room b.limit (Nat.le_of_eq (h.limit_eq_of_owned hstorage))
  | wrapped data => simp only [expand?, expand, hstorage]

theorem reserve?_eq (h : b.WellFormed) (n : Nat) : b.reserve? n = some (b.reserve n) := by
  rw [reserve?, h.remaining?_eq, Option.bind_some, reserve]
  by_cases hshort : b.remaining < n
  · -- what is missing is subtracted only where something is missing
    rw [if_pos hshort, if_pos hshort, Size.sub?, if_pos (Nat.le_of_lt hshort), Option.bind_some,
      h.expand?_eq]
  · rw [if_neg hshort, if_neg hshort]

theorem place?_eq (h : b.WellFormed) {bytes : List UInt8} (hroom : bytes.length ≤ b.remaining) :
    b.place? bytes = some (b.place bytes) := by
  cases hstorage : b.storage with
  | empty => simp only [place?, Buffer.place, hstorage]
  | wrapped data => simp only [place?, Buffer.place, hstorage]
  | owned room =>
    -- room up to the end of the buffer is room up to the end of the storage
    have hend : b.next + bytes.length ≤ room.length := by
      rw [← h.limit_eq_of_owned hstorage]
      exact h.next_add_le_limit hroom
    simp only [place?, hstorage, part?_add hend, Option.map_some]

theorem insert?_eq (h : b.WellFormed) (bytes : List UInt8) :
    b.insert? bytes = some (b.insert bytes) := by
  rw [insert?, Buffer.insert]
  cases hown : b.isWrapped with
  | true => rfl
  | false =>
    rw [h.reserve?_eq, Option.bind_some]
    -- what reserving leaves is in order and has room for the bytes
    rcases h.reserve_ok hown bytes.length with hfull | ⟨b', hreserve, hb', hroom⟩
    · rw [hfull]
      rfl
    · rw [hreserve]
      simp only [hb'.place?_eq hroom]
      rfl

theorem removeOctets?_eq (h : b.WellFormed) (n : Nat) :
    b.removeOctets? n = some (b.removeOctets n) := by
  rw [removeOctets?, h.remaining?_eq, Option.bind_some, Buffer.removeOctets]
  by_cases hshort : b.remaining < n
  · rw [if_pos hshort, if_pos hshort]
  · -- the bytes end before the buffer does
    have hend : b.next + n ≤ b.storage.bytes.length :=
      Nat.le_trans (h.next_add_le_limit (Nat.le_of_not_lt hshort)) h.limit_le_length
    rw [if_neg hshort, if_neg hshort, part?_add hend]
    rfl

end WellFormed

/-- In every buffer that can be reached the positions are in order and inside the storage, which is
in use from its first to its last byte where the buffer owns it; without storage all of them are
zero. So no subtraction of positions goes below zero, and no part that is taken leaves the
storage. -/
theorem Reachable.positions_in_range {b : Buffer} (h : Reachable b) :
    (b.base ≤ b.next ∧ b.next ≤ b.limit ∧ b.limit ≤ b.storage.bytes.length) ∧
      (∀ room, b.storage = .owned room → b.base = 0 ∧ b.limit = room.length) ∧
      (b.storage = .empty → b.base = 0 ∧ b.next = 0 ∧ b.limit = 0) ∧
      b.remaining? = some b.remaining ∧ b.length? = some b.length ∧ b.raw? = some b.raw ∧
      b.toData? = some b.toData ∧
      (∀ missing, b.expand? missing = some (b.expand missing)) ∧
      (∀ bytes, b.insert? bytes = some (b.insert bytes)) ∧
      ∀ n, b.removeOctets? n = some (b.removeOctets n) := by
  have hb := h.wellFormed
  refine ⟨⟨hb.base_le_next, hb.next_le_limit, hb.limit_le_length⟩, hb.of_owned, ?_,
    hb.remaining?_eq, hb.length?_eq, hb.raw?_eq, hb.toData?_eq, hb.expand?_eq, hb.insert?_eq,
    hb.removeOctets?_eq⟩
  intro hempty
  exact ⟨hb.base_eq_zero_of_empty hempty, hb.next_eq_zero_of_empty hempty,
    hb.limit_eq_zero_of_empty hempty⟩

/-- A window on the middle of some bytes that takes over the cursor of a buffer of another kind,
which stands beyond the end of the window. -/
theorem Reachable.positions_in_range_synced :
    let other : Buffer := (Buffer.new.insertOctets [9, 9, 9, 9, 9, 9]).after
    let w : Buffer := ⟨.wrapped [0x30, 2, 97, 98, 0], 2, 4, 2⟩
    let b : Buffer := w.sync other
    (Buffer.removeOctets (.wrap [0x30, 2, 97, 98, 0]) 2).after.window 2 = .ok w ∧
      Reachable b ∧ b.base = 2 ∧ b.next = 4 ∧ b.limit = 4 ∧ b.raw? = some [97, 98] ∧
      b.removeOctets? 1 = some ⟨.error .overrun, b⟩ := by
  intro other w b
  have hwindow : (Buffer.removeOctets (.wrap [0x30, 2, 97, 98, 0]) 2).after.window 2 = .ok w := rfl
  have hb : Reachable b :=
    .sync (.window (.removeOctets (.wrap [0x30, 2, 97, 98, 0]) 2) hwindow) other
  rcases hb.positions_in_range with ⟨-, -, -, -, -, hraw, -, -, -, hremove⟩
  refine ⟨hwindow, hb, rfl, rfl, rfl, ?_, ?_⟩
  · rw [hraw]
    rfl
  · rw [hremove]
    rfl

end Buffer
end Asn1
end Kerberos
