import Kerberos.Proofs.Asn1.Buffer
import Kerberos.Proofs.Text.Utf8

/-!
# Reading back what was built

Items put into a new buffer from the last to the first are read from its encoding from the first
to the last. The reader is told the kind of each item and its number of bytes, and nothing else.
-/

namespace Kerberos
namespace Asn1

/-! ## Items -/

/-- What can be put into a buffer. -/
inductive Item
  | octet (value : UInt8)
  | octets (value : List UInt8)
  | text (value : String)
  deriving DecidableEq

/-- What a reader knows of an item: its kind, and its number of bytes where it is not one. -/
inductive Item.Shape
  | octet
  | octets (n : Nat)
  | text (n : Nat)

namespace Item

def bytes : Item → List UInt8
  | octet value => [value]
  | octets value => value
  | text value => Text.Utf8.encode value

def shape (item : Item) : Shape :=
  match item with
  | octet _ => .octet
  | octets _ => .octets item.bytes.length
  | text _ => .text item.bytes.length

def insert (b : Buffer) : Item → Outcome Error Buffer Unit
  | octet value => b.insertOctet value
  | octets value => b.insertOctets value
  | text value => b.insertText value

def remove (b : Buffer) : Shape → Outcome Error Buffer Item
  | .octet =>
    match b.removeOctet with
    | ⟨.error e, b'⟩ => ⟨.error e, b'⟩
    | ⟨.ok read, b'⟩ => ⟨.ok (octet read), b'⟩
  | .octets n =>
    match b.removeOctets n with
    | ⟨.error e, b'⟩ => ⟨.error e, b'⟩
    | ⟨.ok read, b'⟩ => ⟨.ok (octets read), b'⟩
  | .text n =>
    match b.removeText n with
    | ⟨.error e, b'⟩ => ⟨.error e, b'⟩
    | ⟨.ok read, b'⟩ => ⟨.ok (text read), b'⟩

/-- Puts items in front of the encoding, the last one first, up to the first failure. -/
def insertAll (b : Buffer) : List Item → Outcome Error Buffer Unit
  | [] => ⟨.ok (), b⟩
  | item :: rest =>
    match insertAll b rest with
    | ⟨.error e, b'⟩ => ⟨.error e, b'⟩
    | ⟨.ok (), b'⟩ => item.insert b'

/-- Reads items of the shapes, the first one first, up to the first failure. -/
def removeAll (b : Buffer) : List Shape → Outcome Error Buffer (List Item)
  | [] => ⟨.ok [], b⟩
  | shape :: rest =>
    match remove b shape with
    | ⟨.error e, b'⟩ => ⟨.error e, b'⟩
    | ⟨.ok item, b'⟩ =>
      match removeAll b' rest with
      | ⟨.error e, b''⟩ => ⟨.error e, b''⟩
      | ⟨.ok items, b''⟩ => ⟨.ok (item :: items), b''⟩

/-! ## One item -/

theorem insert_eq (b : Buffer) (item : Item) : item.insert b = b.insert item.bytes := by
  cases item with
  | octet value => rfl
  | octets value => rfl
  | text value => rfl

/-- An item is read where its bytes are. -/
theorem remove_of_removeOctets {item : Item} {b b' : Buffer}
    (h : b.removeOctets item.bytes.length = ⟨.ok item.bytes, b'⟩) :
    remove b item.shape = ⟨.ok item, b'⟩ := by
  cases item with
  | octet value =>
    have hone : b.removeOctets 1 = ⟨.ok [value], b'⟩ := h
    simp only [shape, remove, Buffer.removeOctet, hone, List.headD_cons]
  | octets value =>
    simp only [bytes] at h
    simp only [bytes, shape, remove, h]
  | text value =>
    simp only [bytes] at h
    simp only [bytes, shape, remove, Buffer.removeText, h, Text.Utf8.decode?_encode]

/-- An item is read back where its bytes stand at the cursor. -/
theorem remove_reading (item : Item) (done rest : List UInt8) :
    remove (.reading done (item.bytes ++ rest)) item.shape =
      ⟨.ok item, .reading (done ++ item.bytes) rest⟩ :=
  remove_of_removeOctets (Buffer.removeOctets_reading done item.bytes rest)

/-! ## All items -/

/-- A run of insertions puts the bytes of all items in front of what was built, or one of them
makes the storage too large. -/
theorem insertAll_of_builds {b : Buffer} {content : List UInt8} (h : b.Builds content)
    (items : List Item) :
    (∃ b', insertAll b items = ⟨.ok (), b'⟩ ∧ b'.Builds (items.flatMap bytes ++ content)) ∨
      (insertAll b items).answer = .error .outOfMemory := by
  induction items with
  | nil => exact .inl ⟨b, rfl, h⟩
  | cons item rest ih =>
    cases hrest : insertAll b rest with
    | mk answer b' =>
      rw [hrest] at ih
      rcases ih with ⟨_, hok, hbuilds⟩ | herror
      · -- the items after this one are in the buffer, and its bytes go in front of theirs
        cases hok
        have hitem : insertAll b (item :: rest) = b'.insert item.bytes := by
          rw [insertAll, hrest]
          exact insert_eq b' item
        rcases Buffer.insert_of_builds hbuilds item.bytes with ⟨b'', hinsert, hbuilds'⟩ | hfull
        · refine .inl ⟨b'', by rw [hitem, hinsert], ?_⟩
          rw [List.flatMap_cons, List.append_assoc]
          exact hbuilds'
        · right
          rw [hitem, hfull]
      · -- an earlier insertion has failed, and this one is not made
        right
        have hanswer : answer = .error .outOfMemory := herror
        rw [insertAll, hrest, hanswer]

/-- A run of removals reads back the items whose bytes stand at the cursor. -/
theorem removeAll_reading (items : List Item) (done rest : List UInt8) :
    removeAll (.reading done (items.flatMap bytes ++ rest)) (items.map shape) =
      ⟨.ok items, .reading (done ++ items.flatMap bytes) rest⟩ := by
  induction items generalizing done with
  | nil => simp [removeAll]
  | cons item items ih =>
    have hitem := remove_reading item done (items.flatMap bytes ++ rest)
    have hitems := ih (done ++ item.bytes)
    simp only [List.flatMap_cons, List.map_cons, List.append_assoc] at hitem hitems ⊢
    simp only [removeAll, hitem, hitems]

/-- Items inserted into a new buffer from the last to the first, with storage enough for them all,
are read back from its encoding from the first to the last, and nothing is left. -/
theorem removeAll_insertAll {items : List Item}
    (h : (insertAll .new items).answer ≠ .error .outOfMemory) :
    (insertAll .new items).answer = .ok () ∧
      ∃ b, removeAll (.wrap (insertAll .new items).after.toData) (items.map shape) =
          ⟨.ok items, b⟩ ∧
        b.remaining = 0 ∧ b.length = (items.flatMap bytes).length := by
  rcases insertAll_of_builds .new items with ⟨b, hinsert, hbuilds⟩ | herror
  · have hdata : (insertAll .new items).after.toData = items.flatMap bytes := by
      rw [hinsert, Buffer.toData_of_builds hbuilds, List.append_nil]
    have hremove : removeAll (.wrap (items.flatMap bytes)) (items.map shape) =
        ⟨.ok items, .reading (items.flatMap bytes) []⟩ := by
      simpa [Buffer.wrap_eq] using removeAll_reading items [] []
    refine ⟨by rw [hinsert], .reading (items.flatMap bytes) [], ?_, ?_, ?_⟩
    · rw [hdata, hremove]
    · exact Buffer.remaining_reading _ _
    · exact Buffer.length_reading _ _
  · exact absurd herror h

/-- Items of each kind, with empty ones and characters of several bytes among them. -/
theorem removeAll_insertAll_mixed :
    (insertAll .new [.text "", .octet 0x30, .text "ß→𝄞", .octets [], .octets [0]]).answer ≠
        .error .outOfMemory ∧
      ∃ b, removeAll (.wrap (insertAll .new
            [.text "", .octet 0x30, .text "ß→𝄞", .octets [], .octets [0]]).after.toData)
          [.text 0, .octet, .text 9, .octets 0, .octets 1] =
            ⟨.ok [.text "", .octet 0x30, .text "ß→𝄞", .octets [], .octets [0]], b⟩ ∧
        b.remaining = 0 ∧ b.length = 11 := by
  have hok : (insertAll .new
      [.text "", .octet 0x30, .text "ß→𝄞", .octets [], .octets [0]]).answer = .ok () := by
    rfl
  have h : (insertAll .new
      [.text "", .octet 0x30, .text "ß→𝄞", .octets [], .octets [0]]).answer ≠
        .error .outOfMemory := by
    rw [hok]
    intro herror
    cases herror
  have hshapes : [text "", octet 0x30, text "ß→𝄞", octets [], octets [0]].map shape =
      [.text 0, .octet, .text 9, .octets 0, .octets 1] := by
    rfl
  have hlength : ([text "", octet 0x30, text "ß→𝄞", octets [], octets [0]].flatMap
      bytes).length = 11 := by
    rfl
  have hread := removeAll_insertAll h
  rw [hshapes, hlength] at hread
  exact ⟨h, hread.2⟩

end Item
end Asn1
end Kerberos
