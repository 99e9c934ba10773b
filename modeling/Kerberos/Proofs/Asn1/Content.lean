import Kerberos.Proofs.Asn1.RoundTrip

/-!
# The content after a history of edits

A buffer that builds an encoding takes insertions and removals in any order. An insertion puts the
bytes of its item in front of the encoding. A removal reads the spare room, which is zero since
nothing was written there, and moves the cursor that insertions write at: it counts as the
insertion of as many zeros. Main statement: `toData_history`.
-/

namespace Kerberos
namespace Asn1

namespace Buffer

/-! ## Growth -/

/-- The number of bytes of the storage. -/
def capacity (b : Buffer) : Nat :=
  b.storage.bytes.length

/-- The number of bytes that the storage grows by to take `n` more bytes. -/
def growth (b : Buffer) (n : Nat) : Nat :=
  if b.remaining < n then max 200 (n - b.remaining) else 0

theorem growth_pos_iff (b : Buffer) (n : Nat) : 0 < b.growth n ↔ b.remaining < n := by
  by_cases hshort : b.remaining < n
  · rw [growth, if_pos hshort]
    exact ⟨fun _ => hshort, fun _ => Nat.lt_of_lt_of_le (by decide) (Nat.le_max_left _ _)⟩
  · rw [growth, if_neg hshort]
    exact ⟨fun h => absurd h (Nat.lt_irrefl 0), fun h => absurd h hshort⟩

variable {b : Buffer}

theorem limit_place (b : Buffer) (bytes : List UInt8) : (b.place bytes).limit = b.limit := by
  cases hstorage : b.storage with
  | empty => simp only [place, hstorage]
  | owned room => simp only [place, hstorage]
  | wrapped data => simp only [place, hstorage]

theorem isWrapped_place (b : Buffer) (bytes : List UInt8) :
    (b.place bytes).isWrapped = b.isWrapped := by
  cases hstorage : b.storage with
  | empty => simp only [place, hstorage]
  | owned room => simp only [place, isWrapped, hstorage]
  | wrapped data => simp only [place, hstorage]

theorem capacity_grown (b : Buffer) (added : Nat) :
    (b.grown added).capacity = b.capacity + added := by
  simp [capacity, grown, Storage.bytes]

namespace WellFormed

/-- Writing into room that is there leaves the storage as long as it is. -/
theorem capacity_place (h : b.WellFormed) (hown : b.isWrapped = false) {bytes : List UInt8}
    (hroom : bytes.length ≤ b.remaining) : (b.place bytes).capacity = b.capacity := by
  have hown' : (b.place bytes).isWrapped = false := by
    rw [isWrapped_place]
    exact hown
  calc
    (b.place bytes).capacity = (b.place bytes).limit :=
      ((h.place hroom).limit_eq_length hown').symm
    _ = b.limit := limit_place b bytes
    _ = b.capacity := h.limit_eq_length hown

/-- An insertion fails only if the storage would become too large, and then changes nothing. If it
succeeds the storage has grown by what was missing, and by 200 bytes at least, if anything was. -/
theorem insert_cases (h : b.WellFormed) (hown : b.isWrapped = false) (bytes : List UInt8) :
    (Size.largestAllocation < b.capacity + b.growth bytes.length ∧
        b.insert bytes = ⟨.error .outOfMemory, b⟩) ∨
      ∃ b', b.insert bytes = ⟨.ok (), b'⟩ ∧
        b'.capacity = b.capacity + b.growth bytes.length := by
  have hlimit : b.limit = b.capacity := h.limit_eq_length hown
  rcases h.reserve_cases hown bytes.length with
    ⟨hroom, hreserve⟩ | ⟨hshort, hlarge, hfull⟩ | ⟨hshort, -, hreserve⟩
  · right
    refine ⟨b.place bytes, insert_eq_place hown hreserve, ?_⟩
    rw [growth, if_neg (Nat.not_lt_of_le hroom), Nat.add_zero]
    exact h.capacity_place hown hroom
  · left
    refine ⟨?_, insert_of_reserve_error hown hfull⟩
    rw [growth, if_pos hshort, Nat.max_comm, ← hlimit]
    exact hlarge
  · right
    refine ⟨_, insert_eq_place hown hreserve, ?_⟩
    -- the bytes have room in what was added, which is all that is new
    rw [(h.grown hown _).capacity_place rfl (h.le_remaining_grown hown bytes.length),
      growth, if_pos hshort, Nat.max_comm, capacity_grown]
    rfl

end WellFormed

/-! ## Removing from the spare room -/

/-- A removal takes zeros from the spare room, which become content. -/
theorem removeOctets_holding {n spare : Nat} (h : n ≤ spare) (content : List UInt8) :
    (holding content spare).removeOctets n =
      ⟨.ok (List.replicate n 0), holding (List.replicate n 0 ++ content) (spare - n)⟩ := by
  have hroom : ¬(holding content spare).remaining < n := by
    rw [remaining_holding]
    exact Nat.not_lt_of_le h
  have hslice : (holding content spare).slice content.length n = List.replicate n 0 := by
    have hdrop : (content.reverse ++ List.replicate spare (0 : UInt8)).drop content.length =
        List.replicate spare 0 := List.drop_left' (by simp)
    rw [slice, holding, Storage.bytes, hdrop, List.take_replicate, Nat.min_eq_left h]
  have hsplit : List.replicate spare (0 : UInt8) =
      List.replicate n 0 ++ List.replicate (spare - n) 0 := by
    rw [List.replicate_append_replicate, Nat.add_sub_cancel' h]
  have hnext : { holding content spare with next := content.length + n } =
      holding (List.replicate n 0 ++ content) (spare - n) := by
    have hlimit : content.length + spare = n + content.length + (spare - n) := by
      omega
    simp [holding, hsplit, hlimit, Nat.add_comm n content.length]
  rw [removeOctets, if_neg hroom, ← hnext]
  exact congrArg (fun read => Outcome.mk (.ok read) _) hslice

/-- A removal succeeds if and only if there is as much room, and then it puts zeros in front of what
was built. -/
theorem removeOctets_of_builds {content : List UInt8} (h : Builds b content) (n : Nat) :
    (n ≤ b.remaining ∧ ∃ b', b.removeOctets n = ⟨.ok (List.replicate n 0), b'⟩ ∧
        Builds b' (List.replicate n 0 ++ content)) ∨
      (b.remaining < n ∧ b.removeOctets n = ⟨.error .overrun, b⟩) := by
  by_cases hshort : b.remaining < n
  · right
    exact ⟨hshort, if_pos hshort⟩
  · left
    have hroom : n ≤ b.remaining := Nat.le_of_not_lt hshort
    refine ⟨hroom, ?_⟩
    cases h with
    | new =>
      -- without storage there is nothing to be read
      have hzero : n = 0 := Nat.eq_zero_of_le_zero hroom
      subst hzero
      exact ⟨new, rfl, .new⟩
    | holding content spare =>
      rw [remaining_holding] at hroom
      exact ⟨_, removeOctets_holding hroom content, .holding _ _⟩

end Buffer

namespace Item

/-! ## Items of zeros -/

def Shape.size : Shape → Nat
  | octet => 1
  | octets n => n
  | text n => n

/-- The item of a shape that has no bytes but zeros. -/
def zeros : Shape → Item
  | .octet => octet 0
  | .octets n => octets (List.replicate n 0)
  | .text n => text (String.ofList (List.replicate n (Char.ofNat 0)))

/-- Zeros are the bytes of a text, of as many characters. -/
theorem bytes_zeros (shape : Shape) : (zeros shape).bytes = List.replicate shape.size 0 := by
  cases shape with
  | octet => rfl
  | octets n => rfl
  | text n =>
    have hone : String.utf8EncodeChar (Char.ofNat 0) = [0] := rfl
    simp only [zeros, bytes, Text.Utf8.encode, String.toList_ofList, Shape.size]
    induction n with
    | zero => rfl
    | succ n ih =>
      rw [List.replicate_succ, List.flatMap_cons, hone, ih]
      rfl

theorem shape_zeros (shape : Shape) : (zeros shape).shape = shape := by
  have hbytes := congrArg List.length (bytes_zeros shape)
  rw [List.length_replicate] at hbytes
  cases shape with
  | octet => rfl
  | octets n => exact congrArg Shape.octets hbytes
  | text n => exact congrArg Shape.text hbytes

theorem remove_of_removeOctets_error {b b' : Buffer} {shape : Shape} {e : Error}
    (h : b.removeOctets shape.size = ⟨.error e, b'⟩) : remove b shape = ⟨.error e, b'⟩ := by
  cases shape with
  | octet =>
    have hone : b.removeOctets 1 = ⟨.error e, b'⟩ := h
    simp only [remove, Buffer.removeOctet, hone]
  | octets n =>
    have hoctets : b.removeOctets n = ⟨.error e, b'⟩ := h
    simp only [remove, hoctets]
  | text n =>
    have hoctets : b.removeOctets n = ⟨.error e, b'⟩ := h
    simp only [remove, Buffer.removeText, hoctets]

/-- A removal from a buffer that builds reads an item of zeros, or there is too little room. -/
theorem remove_of_builds {b : Buffer} {content : List UInt8} (h : b.Builds content)
    (shape : Shape) :
    (shape.size ≤ b.remaining ∧ ∃ b', remove b shape = ⟨.ok (zeros shape), b'⟩ ∧
        b'.Builds (List.replicate shape.size 0 ++ content)) ∨
      (b.remaining < shape.size ∧ remove b shape = ⟨.error .overrun, b⟩) := by
  rcases Buffer.removeOctets_of_builds h shape.size with
    ⟨hroom, b', hread, hbuilds⟩ | ⟨hshort, hread⟩
  · left
    refine ⟨hroom, b', ?_, hbuilds⟩
    have hitem : b.removeOctets (zeros shape).bytes.length = ⟨.ok (zeros shape).bytes, b'⟩ := by
      rw [bytes_zeros, List.length_replicate]
      exact hread
    have hremove := remove_of_removeOctets hitem
    rw [shape_zeros] at hremove
    exact hremove
  · right
    exact ⟨hshort, remove_of_removeOctets_error hread⟩

end Item

/-! ## Histories -/

/-- What can be done to the content of a buffer. -/
inductive Edit
  | insert (item : Item)
  | remove (shape : Item.Shape)

/-- Makes an edit. Only a removal answers with an item. -/
def Edit.perform (b : Buffer) : Edit → Outcome Error Buffer (Option Item)
  | insert item =>
    match item.insert b with
    | ⟨.error e, b'⟩ => ⟨.error e, b'⟩
    | ⟨.ok (), b'⟩ => ⟨.ok none, b'⟩
  | remove shape =>
    match Item.remove b shape with
    | ⟨.error e, b'⟩ => ⟨.error e, b'⟩
    | ⟨.ok item, b'⟩ => ⟨.ok (some item), b'⟩

/-- An edit that was made, with the buffer before it and what it has left. -/
structure Change where
  edit : Edit
  before : Buffer
  result : Outcome Error Buffer (Option Item)

/-- Makes some edits, one after the other, whether those before them succeeded or not. -/
def history (b : Buffer) : List Edit → List Change
  | [] => []
  | edit :: rest =>
    let r := edit.perform b
    ⟨edit, b, r⟩ :: history r.after rest

namespace Change

/-- The bytes that a change has put in front of the encoding: those of an item, or as many zeros as
were removed. A failed edit has put nothing there. -/
def piece (c : Change) : List UInt8 :=
  match c.edit, c.result.answer with
  | _, .error _ => []
  | .insert item, .ok _ => item.bytes
  | .remove shape, .ok _ => List.replicate shape.size 0

/-- The buffer that some changes leave, the one they start with if there is none. -/
def bufferAfter (start : Buffer) (log : List Change) : Buffer :=
  (log.map (·.result.after)).getLastD start

end Change

theorem map_edit_history (b : Buffer) (edits : List Edit) :
    (history b edits).map (·.edit) = edits := by
  induction edits generalizing b with
  | nil => rfl
  | cons edit rest ih => simp only [history, List.map_cons, ih]

/-- An edit puts its bytes in front of what was built, or changes nothing. -/
theorem Edit.perform_of_builds {b : Buffer} {content : List UInt8} (h : b.Builds content)
    (edit : Edit) :
    (edit.perform b).after.Builds (Change.piece ⟨edit, b, edit.perform b⟩ ++ content) := by
  cases edit with
  | insert item =>
    rcases Buffer.insert_of_builds h item.bytes with ⟨b', hinsert, hbuilds⟩ | hfull
    · simp only [perform, Item.insert_eq, hinsert, Change.piece]
      exact hbuilds
    · simp only [perform, Item.insert_eq, hfull, Change.piece]
      exact h
  | remove shape =>
    rcases Item.remove_of_builds h shape with ⟨-, b', hremove, hbuilds⟩ | ⟨-, hremove⟩
    · simp only [perform, hremove, Change.piece]
      exact hbuilds
    · simp only [perform, hremove, Change.piece]
      exact h

/-- A history puts the pieces of its changes in front of what was built, the last one first. -/
theorem history_of_builds {b : Buffer} {content : List UInt8} (h : b.Builds content)
    (edits : List Edit) :
    (Change.bufferAfter b (history b edits)).Builds
      ((history b edits).reverse.flatMap Change.piece ++ content) := by
  -- on the edits, for every content: an edit gives those after it a larger one
  induction edits generalizing b content with
  | nil => exact h
  | cons edit rest ih =>
    have hrest := ih (edit.perform_of_builds h)
    simp only [history, Change.bufferAfter, List.map_cons, List.getLastD_cons, List.reverse_cons,
      List.flatMap_append, List.flatMap_cons, List.flatMap_nil, List.append_nil,
      List.append_assoc] at hrest ⊢
    exact hrest

/-- Every change of a history is what its edit makes of a buffer that builds. -/
theorem builds_of_mem_history {b : Buffer} {content : List UInt8} (h : b.Builds content)
    {edits : List Edit} {c : Change} (hc : c ∈ history b edits) :
    c.result = c.edit.perform c.before ∧ ∃ content', c.before.Builds content' := by
  induction edits generalizing b content with
  | nil => cases hc
  | cons edit rest ih =>
    rcases List.mem_cons.1 hc with rfl | hrest
    · exact ⟨rfl, content, h⟩
    · exact ih (edit.perform_of_builds h) hrest

/-- An insertion fails only if the storage would become too large, and grows it only as needed. -/
theorem Edit.perform_insert {b : Buffer} {content : List UInt8} (h : b.Builds content)
    (item : Item) :
    (Size.largestAllocation < b.capacity + b.growth item.bytes.length ∧
        (insert item).perform b = ⟨.error .outOfMemory, b⟩) ∨
      ∃ b', (insert item).perform b = ⟨.ok none, b'⟩ ∧
        b'.capacity = b.capacity + b.growth item.bytes.length := by
  rcases h.wellFormed.insert_cases h.isWrapped_eq item.bytes with
    ⟨hlarge, hinsert⟩ | ⟨b', hinsert, hcapacity⟩
  · left
    refine ⟨hlarge, ?_⟩
    simp only [perform, Item.insert_eq, hinsert]
  · right
    refine ⟨b', ?_, hcapacity⟩
    simp only [perform, Item.insert_eq, hinsert]

theorem Edit.perform_remove {b : Buffer} {content : List UInt8} (h : b.Builds content)
    (shape : Item.Shape) :
    (shape.size ≤ b.remaining ∧
        ((remove shape).perform b).answer = .ok (some (.zeros shape))) ∨
      (b.remaining < shape.size ∧ (remove shape).perform b = ⟨.error .overrun, b⟩) := by
  rcases Item.remove_of_builds h shape with ⟨hroom, b', hremove, -⟩ | ⟨hshort, hremove⟩
  · left
    refine ⟨hroom, ?_⟩
    simp only [perform, hremove]
  · right
    refine ⟨hshort, ?_⟩
    simp only [perform, hremove]

/-- After any edits of a new buffer its encoding is made of the bytes inserted, the latest in front,
where a removal that succeeds counts as the insertion of as many zeros. A removal succeeds if and
only if it asks for no more bytes than remain, and reads zeros. An insertion fails only where the
storage would be too large, and otherwise makes it larger if and only if it needs more bytes than
remain, by those that are missing and by 200 at least. What fails changes nothing. -/
theorem toData_history (edits : List Edit) :
    let log := history .new edits
    log.map (·.edit) = edits ∧
      (Change.bufferAfter .new log).toData = log.reverse.flatMap Change.piece ∧
      (∀ c ∈ log, ∀ item, c.edit = .insert item →
        (c.result = ⟨.error .outOfMemory, c.before⟩ ∧
          Size.largestAllocation < c.before.capacity + c.before.growth item.bytes.length) ∨
        (c.result.answer = .ok none ∧
          (c.before.capacity < c.result.after.capacity ↔
            c.before.remaining < item.bytes.length) ∧
          c.result.after.capacity = c.before.capacity +
            if c.before.remaining < item.bytes.length then
              max 200 (item.bytes.length - c.before.remaining)
            else 0)) ∧
      ∀ c ∈ log, ∀ shape, c.edit = .remove shape →
        (shape.size ≤ c.before.remaining ∧ ∃ item : Item,
          c.result.answer = .ok (some item) ∧ item.shape = shape ∧
            item.bytes = List.replicate shape.size 0) ∨
        (c.before.remaining < shape.size ∧ c.result = ⟨.error .overrun, c.before⟩) := by
  intro log
  have hbuilds : (Change.bufferAfter .new log).Builds (log.reverse.flatMap Change.piece ++ []) :=
    history_of_builds .new edits
  rw [List.append_nil] at hbuilds
  refine ⟨map_edit_history _ _, Buffer.toData_of_builds hbuilds, ?_, ?_⟩
  · intro c hc item hedit
    rcases builds_of_mem_history .new hc with ⟨hresult, content, hbefore⟩
    rw [hedit] at hresult
    rcases Edit.perform_insert hbefore item with ⟨hlarge, hfull⟩ | ⟨b', hdone, hcapacity⟩
    · left
      exact ⟨hresult.trans hfull, hlarge⟩
    · right
      rw [hresult, hdone]
      refine ⟨rfl, ?_, hcapacity⟩
      rw [hcapacity, Nat.lt_add_right_iff_pos]
      exact Buffer.growth_pos_iff c.before item.bytes.length
  · intro c hc shape hedit
    rcases builds_of_mem_history .new hc with ⟨hresult, content, hbefore⟩
    rw [hedit] at hresult
    rcases Edit.perform_remove hbefore shape with ⟨hroom, hdone⟩ | ⟨hshort, hfailed⟩
    · left
      refine ⟨hroom, .zeros shape, ?_, Item.shape_zeros shape, Item.bytes_zeros shape⟩
      rw [hresult]
      exact hdone
    · right
      exact ⟨hshort, hresult.trans hfailed⟩

/-- Zeros are removed between the insertions, one of which needs more room than is left, and more
are asked for than there are. -/
example :
    (Change.bufferAfter .new (history .new
        [.insert (.octets [1, 2]), .remove (.octets 2), .insert (.text "é"), .remove (.text 195),
          .insert (.octets []), .remove .octet])).toData =
      [0, 0xC3, 0xA9, 0, 0, 1, 2] := by
  decide +kernel

end Asn1
end Kerberos
