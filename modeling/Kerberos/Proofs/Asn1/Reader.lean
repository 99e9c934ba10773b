import Kerberos.Proofs.Asn1.Content
import Kerberos.Proofs.Text.Utf8Canonical

/-!
# A buffer as a reader of bytes

A removal that succeeds gives the item whose bytes stand at the cursor, and moves the cursor past
them; one that fails moves nothing. So whatever was tried before, the bytes returned so far are those
in front of the cursor, without a gap, and a failed call leaves its bytes to those after it. Main
statement: `wrap_reads_data`.
-/

namespace Kerberos
namespace Asn1

/-! ## The bytes at the cursor -/

namespace Buffer

variable {b : Buffer} {bytes more : List UInt8}

/-- The buffer with its cursor `n` bytes further on. -/
def advance (b : Buffer) (n : Nat) : Buffer :=
  { b with next := b.next + n }

theorem advance_advance (b : Buffer) (m n : Nat) : (b.advance m).advance n = b.advance (m + n) := by
  simp only [advance, Nat.add_assoc]

theorem remaining_advance (b : Buffer) (n : Nat) : (b.advance n).remaining = b.remaining - n := by
  cases hstorage : b.storage with
  | empty => simp [remaining, hasStorage, advance, hstorage]
  | owned room => simp [remaining, hasStorage, advance, hstorage, Nat.sub_add_eq]
  | wrapped data => simp [remaining, hasStorage, advance, hstorage, Nat.sub_add_eq]

theorem slice_add (b : Buffer) (i m n : Nat) :
    b.slice i (m + n) = b.slice i m ++ b.slice (i + m) n := by
  rw [slice, List.take_add, List.drop_drop, slice, slice]

namespace WellFormed

theorem advance (h : b.WellFormed) {n : Nat} (hn : n ≤ b.remaining) : (b.advance n).WellFormed :=
  h.move (Nat.le_add_right_of_le h.base_le_next) (h.next_add_le_limit hn)

theorem length_slice_next (h : b.WellFormed) {n : Nat} (hn : n ≤ b.remaining) :
    (b.slice b.next n).length = n := by
  have hlimit := h.next_add_le_limit hn
  have hlength := h.limit_le_length
  rw [slice, List.length_take, List.length_drop]
  omega

end WellFormed

/-- Whether some bytes are the next ones that a buffer has to read. -/
structure Upcoming (b : Buffer) (bytes : List UInt8) : Prop where
  fits : bytes.length ≤ b.remaining
  eq_slice : bytes = b.slice b.next bytes.length

namespace Upcoming

theorem nil (b : Buffer) : b.Upcoming [] :=
  ⟨Nat.zero_le _, List.take_zero.symm⟩

theorem of_slice (h : b.WellFormed) {n : Nat} (hn : n ≤ b.remaining)
    (hbytes : bytes = b.slice b.next n) : b.Upcoming bytes := by
  have hlength : bytes.length = n := by
    rw [hbytes, h.length_slice_next hn]
  refine ⟨?_, ?_⟩
  · rwa [hlength]
  · rwa [hlength]

/-- Bytes behind the next ones are those that come next when these were read. -/
theorem append (h : b.Upcoming bytes) (hmore : (b.advance bytes.length).Upcoming more) :
    b.Upcoming (bytes ++ more) := by
  have hfits := h.fits
  have hfits' := hmore.fits
  rw [remaining_advance] at hfits'
  refine ⟨?_, ?_⟩
  · rw [List.length_append]
    omega
  · rw [List.length_append, slice_add, ← h.eq_slice]
    exact congrArg (bytes ++ ·) hmore.eq_slice

end Upcoming

end Buffer

/-! ## One call -/

namespace Item

open Buffer (Upcoming)

variable {b : Buffer} {shape : Shape} {item : Item} {bytes : List UInt8}

/-- The item of a shape that has the given bytes, if these are as many as the shape says. -/
def ofBytes? : Shape → List UInt8 → Option Item
  | .octet, bytes => some (octet (bytes.headD 0))
  | .octets _, bytes => some (octets bytes)
  | .text _, bytes => (Text.Utf8.decode? bytes).map text

theorem ofBytes?_eq_some_iff (h : bytes.length = shape.size) :
    ofBytes? shape bytes = some item ↔ item.shape = shape ∧ item.bytes = bytes := by
  cases shape with
  | octet =>
    rcases List.length_eq_one_iff.1 h with ⟨value, rfl⟩
    cases item with
    | octet value' => simp [ofBytes?, Item.shape, Item.bytes, eq_comm]
    | octets value' => simp [ofBytes?, Item.shape]
    | text value' => simp [ofBytes?, Item.shape]
  | octets n =>
    cases item with
    | octet value => simp [ofBytes?, Item.shape]
    | octets value =>
      simp only [ofBytes?, Item.shape, Item.bytes, Option.some.injEq, octets.injEq,
        Shape.octets.injEq]
      constructor
      · rintro rfl
        exact ⟨h, rfl⟩
      · rintro ⟨-, rfl⟩
        rfl
    | text value => simp [ofBytes?, Item.shape]
  | text n =>
    cases item with
    | octet value => simp [ofBytes?, Item.shape]
    | octets value => simp [ofBytes?, Item.shape]
    | text value =>
      simp only [ofBytes?, Item.shape, Item.bytes, Option.map_eq_some_iff, text.injEq,
        Shape.text.injEq, exists_eq_right, Text.Utf8.decode?_eq_some_iff]
      constructor
      · rintro rfl
        exact ⟨h, rfl⟩
      · rintro ⟨-, rfl⟩
        rfl

/-- Only bytes that have to be a text can be none of their shape. -/
theorem ofBytes?_eq_none_iff :
    ofBytes? shape bytes = none ↔
      (∃ n, shape = .text n) ∧ ∀ text, bytes ≠ Text.Utf8.encode text := by
  cases shape with
  | octet => simp [ofBytes?]
  | octets n => simp [ofBytes?]
  | text n =>
    simp only [ofBytes?, Option.map_eq_none_iff, Text.Utf8.decode?_eq_none_iff, Shape.text.injEq,
      exists_eq', true_and]

theorem length_bytes_of_shape_eq (h : item.shape = shape) : item.bytes.length = shape.size := by
  subst h
  cases item with
  | octet value => rfl
  | octets value => rfl
  | text value => rfl

/-- A call looks at the number of bytes first, and at the bytes only then. -/
theorem remove_eq (b : Buffer) (shape : Shape) :
    remove b shape =
      if b.remaining < shape.size then ⟨.error .overrun, b⟩
      else
        match ofBytes? shape (b.slice b.next shape.size) with
        | some item => ⟨.ok item, b.advance shape.size⟩
        | none => ⟨.error .badFormat, b⟩ := by
  by_cases hshort : b.remaining < shape.size
  · rw [if_pos hshort]
    exact remove_of_removeOctets_error (if_pos hshort)
  · rw [if_neg hshort]
    have hread : b.removeOctets shape.size =
        ⟨.ok (b.slice b.next shape.size), b.advance shape.size⟩ := if_neg hshort
    cases shape with
    | octet =>
      simp only [Shape.size] at hread
      simp only [remove, Buffer.removeOctet, Shape.size, hread, ofBytes?]
    | octets n =>
      simp only [Shape.size] at hread
      simp only [remove, Shape.size, hread, ofBytes?]
    | text n =>
      simp only [Shape.size] at hread
      simp only [remove, Buffer.removeText, Shape.size, hread, ofBytes?]
      cases Text.Utf8.decode? (b.slice b.next n) with
      | none => rfl
      | some text => rfl

/-- A call succeeds if and only if there are as many bytes and they are an item of the shape; then it
returns this item and moves the cursor past its bytes. -/
theorem remove_eq_ok_iff (h : b.WellFormed) {b' : Buffer} :
    remove b shape = ⟨.ok item, b'⟩ ↔
      shape.size ≤ b.remaining ∧ item.shape = shape ∧ item.bytes = b.slice b.next shape.size ∧
        b' = b.advance shape.size := by
  rw [remove_eq]
  by_cases hroom : shape.size ≤ b.remaining
  · rw [if_neg (Nat.not_lt_of_le hroom), ← and_assoc (b := item.bytes = _),
      ← ofBytes?_eq_some_iff (h.length_slice_next hroom)]
    cases ofBytes? shape (b.slice b.next shape.size) with
    | none => simp
    | some item' => simp [hroom, eq_comm]
  · rw [if_pos (Nat.lt_of_not_le hroom)]
    simp [hroom]

/-- A call fails if and only if there are too few bytes, or a text was asked for and they are not
UTF-8; then it leaves the buffer as it was. -/
theorem remove_eq_error_iff {e : Error} {b' : Buffer} :
    remove b shape = ⟨.error e, b'⟩ ↔
      (b.remaining < shape.size ∧ e = .overrun ∨
        shape.size ≤ b.remaining ∧ (∃ n, shape = .text n) ∧
          (∀ text, b.slice b.next shape.size ≠ Text.Utf8.encode text) ∧ e = .badFormat) ∧
        b' = b := by
  rw [remove_eq]
  by_cases hroom : shape.size ≤ b.remaining
  · rw [if_neg (Nat.not_lt_of_le hroom)]
    cases hitem : ofBytes? shape (b.slice b.next shape.size) with
    | none =>
      rcases ofBytes?_eq_none_iff.1 hitem with ⟨htext, hbytes⟩
      constructor
      · intro hcall
        cases hcall
        exact ⟨.inr ⟨hroom, htext, hbytes, rfl⟩, rfl⟩
      · rintro ⟨⟨hshort, -⟩ | ⟨-, -, -, rfl⟩, rfl⟩
        · exact absurd hroom (Nat.not_le_of_lt hshort)
        · rfl
    | some item =>
      constructor
      · intro hcall
        cases hcall
      · rintro ⟨⟨hshort, -⟩ | ⟨-, htext, hbytes, -⟩, -⟩
        · exact absurd hroom (Nat.not_le_of_lt hshort)
        · rw [ofBytes?_eq_none_iff.2 ⟨htext, hbytes⟩] at hitem
          cases hitem
  · have hshort : b.remaining < shape.size := Nat.lt_of_not_le hroom
    rw [if_pos hshort]
    constructor
    · intro hcall
      cases hcall
      exact ⟨.inl ⟨hshort, rfl⟩, rfl⟩
    · rintro ⟨⟨-, rfl⟩ | ⟨hle, -⟩, rfl⟩
      · rfl
      · exact absurd hle hroom

/-- The bytes that a call has returned: none if it failed. -/
def returned : Except Error Item → List UInt8
  | .ok item => item.bytes
  | .error _ => []

/-- A call returns bytes that stand at the cursor, and moves it past these. -/
theorem upcoming_returned (h : b.WellFormed) (shape : Shape) :
    b.Upcoming (returned (remove b shape).answer) ∧
      (remove b shape).after = b.advance (returned (remove b shape).answer).length := by
  rcases hcall : remove b shape with ⟨answer, b'⟩
  cases answer with
  | error e =>
    rcases remove_eq_error_iff.1 hcall with ⟨-, rfl⟩
    exact ⟨.nil b', rfl⟩
  | ok item =>
    rcases (remove_eq_ok_iff h).1 hcall with ⟨hroom, hshape, hbytes, rfl⟩
    refine ⟨.of_slice h hroom hbytes, ?_⟩
    simp only [returned, length_bytes_of_shape_eq hshape]

end Item

/-! ## Any number of calls -/

namespace Buffer

/-- The answers to some calls, made one after the other, whether those before them succeeded or
not. -/
def answers (b : Buffer) : List Item.Shape → List (Except Error Item)
  | [] => []
  | shape :: rest => (Item.remove b shape).answer :: answers (Item.remove b shape).after rest

/-- The buffer that the same calls leave. -/
def afterAll (b : Buffer) : List Item.Shape → Buffer
  | [] => b
  | shape :: rest => afterAll (Item.remove b shape).after rest

/-- The bytes that the same calls return. -/
def returnedBytes (b : Buffer) (shapes : List Item.Shape) : List UInt8 :=
  (b.answers shapes).flatMap Item.returned

theorem returnedBytes_cons (b : Buffer) (shape : Item.Shape) (rest : List Item.Shape) :
    b.returnedBytes (shape :: rest) =
      Item.returned (Item.remove b shape).answer ++
        (Item.remove b shape).after.returnedBytes rest :=
  rfl

/-- The calls return, without a gap, bytes that stand at the cursor, and move it past these. -/
theorem upcoming_returnedBytes {b : Buffer} (h : b.WellFormed) (shapes : List Item.Shape) :
    b.Upcoming (b.returnedBytes shapes) ∧
      b.afterAll shapes = b.advance (b.returnedBytes shapes).length := by
  -- on the calls, for the buffer that those before them have left
  induction shapes generalizing b with
  | nil => exact ⟨.nil b, rfl⟩
  | cons shape rest ih =>
    rcases Item.upcoming_returned h shape with ⟨hfirst, hafter⟩
    rcases ih (h.advance hfirst.fits) with ⟨hrest, hlast⟩
    rw [returnedBytes_cons, hafter]
    refine ⟨hfirst.append hrest, ?_⟩
    rw [List.length_append, ← advance_advance, ← hlast, afterAll, hafter]

/-- After any calls on a buffer that wraps a byte string, the bytes returned so far are the first ones
of the string, as many as the cursor has passed, and the rest remains. The next call, whatever it asks
for, returns just the bytes behind these and moves past them if so many remain and, where a text was
asked for, they are UTF-8; otherwise it fails and moves nothing. -/
theorem wrap_reads_data (data : List UInt8) (shapes : List Item.Shape) :
    let b := (wrap data).afterAll shapes
    (wrap data).returnedBytes shapes = data.take b.length ∧ b.raw = data.take b.length ∧
      b.length + b.remaining = data.length ∧
      ∀ shape : Item.Shape,
        (∀ item b', Item.remove b shape = ⟨.ok item, b'⟩ ↔
          shape.size ≤ b.remaining ∧ item.shape = shape ∧
            item.bytes = (data.drop b.length).take shape.size ∧ b' = b.advance shape.size) ∧
          ∀ e b', Item.remove b shape = ⟨.error e, b'⟩ ↔
            (b.remaining < shape.size ∧ e = .overrun ∨
              shape.size ≤ b.remaining ∧ (∃ n, shape = .text n) ∧
                (∀ text, (data.drop b.length).take shape.size ≠ Text.Utf8.encode text) ∧
                e = .badFormat) ∧
              b' = b := by
  intro b
  have hstart : (wrap data).WellFormed := .wrap data
  rcases upcoming_returnedBytes hstart shapes with ⟨hbytes, hafter⟩
  have hb : b = (wrap data).advance ((wrap data).returnedBytes shapes).length := hafter
  have hwell : b.WellFormed := by
    rw [hb]
    exact hstart.advance hbytes.fits
  have hposition : b.length = ((wrap data).returnedBytes shapes).length := by
    rw [hb]
    simp [length, advance, wrap]
  have hnext : ∀ n, b.slice b.next n = (data.drop b.length).take n := by
    intro n
    rw [hposition, hb]
    simp [slice, advance, wrap, Storage.bytes]
  refine ⟨?_, ?_, ?_, ?_⟩
  · rw [hposition]
    exact hbytes.eq_slice
  · rw [hposition, raw, hposition, hb]
    rfl
  · rw [hposition, hb, remaining_advance]
    exact Nat.add_sub_cancel' hbytes.fits
  · intro shape
    simp only [← hnext]
    exact ⟨fun item b' => Item.remove_eq_ok_iff hwell, fun e b' => Item.remove_eq_error_iff⟩

/-- The bytes of a text that ends within a character are left to the calls after it. -/
example :
    ((wrap [0x41, 0xC3, 0xA9]).answers [.text 2, .octets 4, .octet, .text 2, .octet]).map
        Except.toOption =
      [none, none, some (.octet 0x41), some (.text "é"), none] := by
  decide +kernel

end Buffer
end Asn1
end Kerberos
