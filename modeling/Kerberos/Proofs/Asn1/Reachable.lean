import Kerberos.Asn1.Buffer

/-!
# Buffers that can be reached

A buffer is new or made from given bytes, and after that it is what the operations have made of it,
whether they succeeded or not. Whatever these were, its positions are in order and inside its
storage: `Reachable.wellFormed`.
-/

namespace Kerberos
namespace Asn1
namespace Buffer

/-- Every buffer there can be, after any sequence of operations. Windows are buffers too, and what a
cursor is synchronised with may be any buffer at all. -/
inductive Reachable : Buffer → Prop
  | new : Reachable .new
  | wrap (data : List UInt8) : Reachable (.wrap data)
  | wrapData {b : Buffer} (h : Reachable b) (data : Option (List UInt8)) :
      Reachable (b.wrapData data).after
  | insertOctet {b : Buffer} (h : Reachable b) (octet : UInt8) :
      Reachable (b.insertOctet octet).after
  | insertOctets {b : Buffer} (h : Reachable b) (octets : List UInt8) :
      Reachable (b.insertOctets octets).after
  | insertText {b : Buffer} (h : Reachable b) (text : String) : Reachable (b.insertText text).after
  | removeOctet {b : Buffer} (h : Reachable b) : Reachable b.removeOctet.after
  | removeOctets {b : Buffer} (h : Reachable b) (n : Nat) : Reachable (b.removeOctets n).after
  | removeText {b : Buffer} (h : Reachable b) (n : Nat) : Reachable (b.removeText n).after
  | window {b w : Buffer} {n : Nat} (h : Reachable b) (hw : b.window n = .ok w) : Reachable w
  | sync {b : Buffer} (h : Reachable b) (other : Buffer) : Reachable (b.sync other)

/-- Whether the positions of a buffer are in order and inside its storage, all of which is in use
where the buffer owns it. -/
structure WellFormed (b : Buffer) : Prop where
  base_le_next : b.base ≤ b.next
  next_le_limit : b.next ≤ b.limit
  limit_le_length : b.limit ≤ b.storage.bytes.length
  of_owned : ∀ room, b.storage = .owned room → b.base = 0 ∧ b.limit = room.length

/-- A buffer with more room at the end of its storage, which is zero there. -/
def grown (b : Buffer) (added : Nat) : Buffer :=
  { b with
    storage := .owned (b.storage.bytes ++ List.replicate added 0)
    limit := b.limit + added }

namespace WellFormed

variable {b : Buffer}

/-! ## Positions -/

theorem limit_eq_of_owned (h : b.WellFormed) {room : List UInt8} (hroom : b.storage = .owned room) :
    b.limit = room.length :=
  (h.of_owned room hroom).2

theorem limit_eq_zero_of_empty (h : b.WellFormed) (hempty : b.storage = .empty) : b.limit = 0 := by
  have hle := h.limit_le_length
  rw [hempty] at hle
  exact Nat.eq_zero_of_le_zero hle

theorem next_eq_zero_of_empty (h : b.WellFormed) (hempty : b.storage = .empty) : b.next = 0 := by
  have hle := h.next_le_limit
  rw [h.limit_eq_zero_of_empty hempty] at hle
  exact Nat.eq_zero_of_le_zero hle

theorem base_eq_zero_of_empty (h : b.WellFormed) (hempty : b.storage = .empty) : b.base = 0 := by
  have hle := h.base_le_next
  rw [h.next_eq_zero_of_empty hempty] at hle
  exact Nat.eq_zero_of_le_zero hle

/-- A buffer without storage has no bytes between its positions either. -/
theorem remaining_eq (h : b.WellFormed) : b.remaining = b.limit - b.next := by
  cases hstorage : b.storage with
  | empty => simp [remaining, hasStorage, hstorage, h.limit_eq_zero_of_empty hstorage]
  | owned room => simp [remaining, hasStorage, hstorage]
  | wrapped data => simp [remaining, hasStorage, hstorage]

theorem next_add_le_limit (h : b.WellFormed) {n : Nat} (hn : n ≤ b.remaining) :
    b.next + n ≤ b.limit := by
  have hle := h.next_le_limit
  rw [h.remaining_eq] at hn
  omega

/-- The cursor may be anywhere between the start and the end. -/
theorem move (h : b.WellFormed) {next : Nat} (hbase : b.base ≤ next) (hlimit : next ≤ b.limit) :
    WellFormed { b with next } :=
  { base_le_next := hbase
    next_le_limit := hlimit
    limit_le_length := h.limit_le_length
    of_owned := h.of_owned }

/-! ## Making buffers -/

theorem new : WellFormed .new := by
  refine ⟨Nat.le_refl _, Nat.le_refl _, Nat.le_refl _, ?_⟩
  intro room hroom
  cases hroom

theorem wrap (data : List UInt8) : WellFormed (.wrap data) := by
  refine ⟨Nat.le_refl _, Nat.zero_le _, Nat.le_refl _, ?_⟩
  intro room hroom
  cases hroom

theorem wrapData (h : b.WellFormed) (data : Option (List UInt8)) :
    (b.wrapData data).after.WellFormed := by
  cases data with
  | none => exact h
  | some data => exact .wrap data

/-! ## Growing -/

theorem base_eq_zero (h : b.WellFormed) (hown : b.isWrapped = false) : b.base = 0 := by
  cases hstorage : b.storage with
  | empty => exact h.base_eq_zero_of_empty hstorage
  | owned room => exact (h.of_owned room hstorage).1
  | wrapped data => simp [isWrapped, hstorage] at hown

theorem limit_eq_length (h : b.WellFormed) (hown : b.isWrapped = false) :
    b.limit = b.storage.bytes.length := by
  cases hstorage : b.storage with
  | empty => exact h.limit_eq_zero_of_empty hstorage
  | owned room => exact h.limit_eq_of_owned hstorage
  | wrapped data => simp [isWrapped, hstorage] at hown

theorem grown (h : b.WellFormed) (hown : b.isWrapped = false) (added : Nat) :
    (b.grown added).WellFormed := by
  have hlimit : b.limit + added = (b.storage.bytes ++ List.replicate added (0 : UInt8)).length := by
    rw [List.length_append, List.length_replicate, h.limit_eq_length hown]
  refine ⟨h.base_le_next, ?_, Nat.le_of_eq hlimit, ?_⟩
  · exact Nat.le_trans h.next_le_limit (Nat.le_add_right _ _)
  · intro room hroom
    cases hroom
    exact ⟨h.base_eq_zero hown, hlimit⟩

theorem remaining_grown (h : b.WellFormed) (hown : b.isWrapped = false) (added : Nat) :
    (b.grown added).remaining = b.remaining + added := by
  have hle := h.next_le_limit
  rw [(h.grown hown added).remaining_eq, h.remaining_eq]
  simp only [Buffer.grown]
  omega

/-- A buffer that is not wrapped grows by what is missing, and by `increment` at least, as long as
that much can be allocated. -/
theorem expand_eq (h : b.WellFormed) (hown : b.isWrapped = false) (missing : Nat) :
    b.expand missing =
      if Size.largestAllocation < b.limit + max missing increment then
        ⟨.error .outOfMemory, b⟩
      else ⟨.ok (), b.grown (max missing increment)⟩ := by
  cases hstorage : b.storage with
  | empty =>
    simp [expand, expand.grow, Buffer.grown, hstorage, Storage.bytes,
      h.limit_eq_zero_of_empty hstorage]
  | owned room =>
    -- all of the storage is in use, so the copy of the part in use is a copy of all of it
    have htake : room.take b.limit = room :=
      List.take_of_length_le (Nat.le_of_eq (h.limit_eq_of_owned hstorage).symm)
    simp [expand, expand.grow, Buffer.grown, hstorage, Storage.bytes, htake]
  | wrapped data => simp [isWrapped, hstorage] at hown

/-- Room for some bytes is there, or the storage would be too large with it, or the storage grows
by what is missing. -/
theorem reserve_cases (h : b.WellFormed) (hown : b.isWrapped = false) (n : Nat) :
    (n ≤ b.remaining ∧ b.reserve n = ⟨.ok (), b⟩) ∨
      (b.remaining < n ∧ Size.largestAllocation < b.limit + max (n - b.remaining) increment ∧
        b.reserve n = ⟨.error .outOfMemory, b⟩) ∨
      (b.remaining < n ∧ b.limit + max (n - b.remaining) increment ≤ Size.largestAllocation ∧
        b.reserve n = ⟨.ok (), b.grown (max (n - b.remaining) increment)⟩) := by
  by_cases hroom : n ≤ b.remaining
  · left
    refine ⟨hroom, ?_⟩
    rw [reserve, if_neg (Nat.not_lt_of_le hroom)]
  · right
    have hshort : b.remaining < n := Nat.lt_of_not_le hroom
    have hexpand : b.reserve n = b.expand (n - b.remaining) := by
      rw [reserve, if_pos hshort]
    rw [hexpand, h.expand_eq hown]
    by_cases hlarge : Size.largestAllocation < b.limit + max (n - b.remaining) increment
    · left
      exact ⟨hshort, hlarge, if_pos hlarge⟩
    · right
      exact ⟨hshort, Nat.le_of_not_lt hlarge, if_neg hlarge⟩

/-- The storage grows by enough. -/
theorem le_remaining_grown (h : b.WellFormed) (hown : b.isWrapped = false) (n : Nat) :
    n ≤ (b.grown (max (n - b.remaining) increment)).remaining := by
  rw [h.remaining_grown hown]
  omega

/-- A buffer in which room was made is in order again and has the room. -/
theorem reserve_ok (h : b.WellFormed) (hown : b.isWrapped = false) (n : Nat) :
    b.reserve n = ⟨.error .outOfMemory, b⟩ ∨
      ∃ b', b.reserve n = ⟨.ok (), b'⟩ ∧ b'.WellFormed ∧ n ≤ b'.remaining := by
  rcases h.reserve_cases hown n with ⟨hroom, hreserve⟩ | ⟨-, -, hfull⟩ | ⟨-, -, hreserve⟩
  · exact .inr ⟨b, hreserve, h, hroom⟩
  · exact .inl hfull
  · exact .inr ⟨_, hreserve, h.grown hown _, h.le_remaining_grown hown n⟩

/-! ## Inserting -/

/-- Bytes for which there is room keep the positions in order. -/
theorem place (h : b.WellFormed) {bytes : List UInt8} (hroom : bytes.length ≤ b.remaining) :
    (b.place bytes).WellFormed := by
  cases hstorage : b.storage with
  | empty =>
    -- nothing is written without storage of its own
    have hplace : b.place bytes = b := by simp only [Buffer.place, hstorage]
    rw [hplace]
    exact h
  | wrapped data =>
    have hplace : b.place bytes = b := by simp only [Buffer.place, hstorage]
    rw [hplace]
    exact h
  | owned room =>
    have hnext := h.next_add_le_limit hroom
    have hlimit := h.limit_eq_of_owned hstorage
    -- the storage stays as long as it is
    have hlength : (room.take b.next ++ bytes.reverse ++
        room.drop (b.next + bytes.length)).length = room.length := by
      simp only [List.length_append, List.length_take, List.length_reverse, List.length_drop]
      omega
    have hbase := h.base_le_next
    simp only [Buffer.place, hstorage]
    refine ⟨Nat.le_add_right_of_le hbase, hnext, ?_, ?_⟩
    · exact Nat.le_of_eq (hlimit.trans hlength.symm)
    · intro room' hroom'
      cases hroom'
      exact ⟨(h.of_owned room hstorage).1, hlimit.trans hlength.symm⟩

theorem insert (h : b.WellFormed) (bytes : List UInt8) : (b.insert bytes).after.WellFormed := by
  rw [Buffer.insert]
  cases hown : b.isWrapped with
  | true => exact h
  | false =>
    rcases h.reserve_ok hown bytes.length with hfull | ⟨b', hreserve, hb', hroom⟩
    · rw [hfull]
      exact h
    · -- the storage may have grown, and the positions are in order in the larger one too
      rw [hreserve]
      exact hb'.place hroom

/-! ## Removing -/

theorem removeOctets (h : b.WellFormed) (n : Nat) : (b.removeOctets n).after.WellFormed := by
  by_cases hshort : b.remaining < n
  · rw [Buffer.removeOctets, if_pos hshort]
    exact h
  · rw [Buffer.removeOctets, if_neg hshort]
    exact h.move (Nat.le_add_right_of_le h.base_le_next)
      (h.next_add_le_limit (Nat.le_of_not_lt hshort))

end WellFormed

theorem after_removeOctet (b : Buffer) : b.removeOctet.after = (b.removeOctets 1).after := by
  rw [removeOctet]
  cases b.removeOctets 1 with
  | mk answer b' =>
    cases answer with
    | error e => rfl
    | ok octets => rfl

/-- Reading a text moves the cursor as reading its bytes does, or not at all. -/
theorem after_removeText (b : Buffer) (n : Nat) :
    (b.removeText n).after = (b.removeOctets n).after ∨ (b.removeText n).after = b := by
  by_cases hshort : b.remaining < n
  · right
    simp only [removeText, removeOctets, if_pos hshort]
  · simp only [removeText, removeOctets, if_neg hshort]
    cases Text.Utf8.decode? (b.slice b.next n) with
    | some text => exact .inl rfl
    | none => exact .inr rfl

namespace WellFormed

variable {b : Buffer}

/-! ## Windows -/

theorem window (h : b.WellFormed) {w : Buffer} {n : Nat} (hw : b.window n = .ok w) :
    w.WellFormed := by
  cases hstorage : b.storage with
  | empty => simp [Buffer.window, hstorage] at hw
  | owned room => simp [Buffer.window, hstorage] at hw
  | wrapped data =>
    simp only [Buffer.window, hstorage] at hw
    by_cases hlarge : b.limit < b.next + n
    · rw [if_pos hlarge] at hw
      cases hw
    · rw [if_neg hlarge] at hw
      cases hw
      -- the window ends before the buffer does, and the buffer before the bytes
      have hlength : b.limit ≤ data.length := by
        have hle := h.limit_le_length
        rwa [hstorage] at hle
      refine ⟨Nat.le_refl _, Nat.le_add_right _ _, ?_, ?_⟩
      · exact Nat.le_trans (Nat.le_of_not_lt hlarge) hlength
      · intro room hroom
        cases hroom

/-- The cursor of another buffer is only taken over as far as the limits allow. -/
theorem sync (h : b.WellFormed) (other : Buffer) : (b.sync other).WellFormed := by
  -- both limits can hold at once
  have horder := Nat.le_trans h.base_le_next h.next_le_limit
  apply h.move
  · exact Nat.le_max_left _ _
  · exact Nat.max_le.2 ⟨horder, Nat.min_le_right _ _⟩

end WellFormed

/-! ## All of them -/

/-- The positions are in order and inside the storage in every buffer that can be reached. -/
theorem Reachable.wellFormed {b : Buffer} (h : Reachable b) : b.WellFormed := by
  -- on the history: what each operation leaves is in order, whether it succeeded or not
  induction h with
  | new => exact .new
  | wrap data => exact .wrap data
  | wrapData _ data ih => exact ih.wrapData data
  | insertOctet _ octet ih => exact ih.insert [octet]
  | insertOctets _ octets ih => exact ih.insert octets
  | insertText _ text ih => exact ih.insert (Text.Utf8.encode text)
  | @removeOctet b _ ih =>
    rw [after_removeOctet]
    exact ih.removeOctets 1
  | removeOctets _ n ih => exact ih.removeOctets n
  | @removeText b _ n ih =>
    rcases after_removeText b n with hmoved | hkept
    · rw [hmoved]
      exact ih.removeOctets n
    · rw [hkept]
      exact ih
  | window _ hw ih => exact ih.window hw
  | sync _ other ih => exact ih.sync other

end Buffer
end Asn1
end Kerberos
