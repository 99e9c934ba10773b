import Kerberos.Proofs.Asn1.Reachable

/-!
# What a buffer holds

A buffer that builds an encoding holds the encoding backwards, followed by zeros. An insertion puts
its bytes in front of the encoding, whether the storage has to grow for it or not. A buffer that
reads holds what it has read and what is still to be read.
-/

namespace Kerberos
namespace Asn1
namespace Buffer

/-! ## Building -/

/-- The buffer that holds `content` in storage of its own, with room for `spare` more bytes. -/
def holding (content : List UInt8) (spare : Nat) : Buffer :=
  ⟨.owned (content.reverse ++ List.replicate spare 0), 0, content.length + spare, content.length⟩

/-- Whether a buffer has built an encoding: it holds it, or it is new and the encoding is empty. -/
inductive Builds : Buffer → List UInt8 → Prop
  | new : Builds .new []
  | holding (content : List UInt8) (spare : Nat) : Builds (holding content spare) content

theorem remaining_holding (content : List UInt8) (spare : Nat) :
    (holding content spare).remaining = spare := by
  simp [remaining, hasStorage, holding]

theorem toData_of_builds {b : Buffer} {content : List UInt8} (h : Builds b content) :
    b.toData = content := by
  cases h with
  | new => rfl
  | holding content spare => simp [toData, raw, slice, length, holding, Storage.bytes]

namespace Builds

variable {b : Buffer} {content : List UInt8}

theorem isWrapped_eq (h : Builds b content) : b.isWrapped = false := by
  cases h with
  | new => rfl
  | holding content spare => rfl

theorem wellFormed (h : Builds b content) : b.WellFormed := by
  cases h with
  | new => exact .new
  | holding content spare =>
    have hlength : content.length + spare =
        (content.reverse ++ List.replicate spare (0 : UInt8)).length := by
      simp
    refine ⟨Nat.zero_le _, Nat.le_add_right _ _, Nat.le_of_eq hlength, ?_⟩
    intro room hroom
    cases hroom
    exact ⟨rfl, hlength⟩

theorem grown_eq (h : Builds b content) (added : Nat) :
    b.grown added = Buffer.holding content (b.remaining + added) := by
  cases h with
  | new => simp [grown, Buffer.new, Buffer.holding, remaining, hasStorage, Storage.bytes]
  | holding content spare =>
    rw [remaining_holding]
    simp [grown, Buffer.holding, Storage.bytes, Nat.add_assoc, List.replicate_append_replicate]

end Builds

/-- Bytes that fit into the spare room go in front of the content. -/
theorem place_holding {bytes : List UInt8} {spare : Nat} (h : bytes.length ≤ spare)
    (content : List UInt8) :
    (holding content spare).place bytes =
      holding (bytes ++ content) (spare - bytes.length) := by
  have htake : (content.reverse ++ List.replicate spare (0 : UInt8)).take content.length =
      content.reverse := List.take_left' (by simp)
  have hdrop : (content.reverse ++ List.replicate spare (0 : UInt8)).drop
      (content.length + bytes.length) = List.replicate (spare - bytes.length) 0 := by
    have hlength : content.length = content.reverse.length := by simp
    rw [hlength, List.drop_length_add_append, List.drop_replicate]
  have hlimit : content.length + spare =
      bytes.length + content.length + (spare - bytes.length) := by
    omega
  simp only [place, holding, htake, hdrop, hlimit, List.reverse_append, List.length_append]
  rw [Nat.add_comm content.length bytes.length]

theorem insert_eq_place {b b' : Buffer} {bytes : List UInt8} (hown : b.isWrapped = false)
    (hreserve : b.reserve bytes.length = ⟨.ok (), b'⟩) :
    b.insert bytes = ⟨.ok (), b'.place bytes⟩ := by
  rw [insert, hown, hreserve]
  rfl

theorem insert_of_reserve {b : Buffer} {bytes content : List UInt8} {spare : Nat}
    (hown : b.isWrapped = false)
    (hreserve : b.reserve bytes.length = ⟨.ok (), holding content spare⟩)
    (hroom : bytes.length ≤ spare) :
    ∃ b', b.insert bytes = ⟨.ok (), b'⟩ ∧ Builds b' (bytes ++ content) := by
  refine ⟨(holding content spare).place bytes, insert_eq_place hown hreserve, ?_⟩
  rw [place_holding hroom]
  exact .holding (bytes ++ content) (spare - bytes.length)

theorem insert_of_reserve_error {b : Buffer} {bytes : List UInt8} {e : Error}
    (hown : b.isWrapped = false) (hreserve : b.reserve bytes.length = ⟨.error e, b⟩) :
    b.insert bytes = ⟨.error e, b⟩ := by
  rw [insert, hown, hreserve]
  rfl

/-- An insertion puts its bytes in front of what was built, or the storage would be too large. -/
theorem insert_of_builds {b : Buffer} {content : List UInt8} (h : Builds b content)
    (bytes : List UInt8) :
    (∃ b', b.insert bytes = ⟨.ok (), b'⟩ ∧ Builds b' (bytes ++ content)) ∨
      b.insert bytes = ⟨.error .outOfMemory, b⟩ := by
  have hown := h.isWrapped_eq
  rcases h.wellFormed.reserve_cases hown bytes.length with
    ⟨hroom, hreserve⟩ | ⟨-, -, hfull⟩ | ⟨-, -, hreserve⟩
  · -- the storage stays as it is
    left
    cases h with
    | new =>
      -- without storage there is room for nothing only
      have hbytes : bytes = [] := List.eq_nil_of_length_eq_zero (Nat.eq_zero_of_le_zero hroom)
      subst hbytes
      exact ⟨new, rfl, .new⟩
    | holding content spare =>
      rw [remaining_holding] at hroom
      exact insert_of_reserve hown hreserve hroom
  · exact .inr (insert_of_reserve_error hown hfull)
  · -- the storage grows by what is missing, and by `increment` at least
    left
    rw [h.grown_eq] at hreserve
    apply insert_of_reserve hown hreserve
    omega

/-! ## Reading -/

/-- The buffer that has read `done` and still has to read `rest`. -/
def reading (done rest : List UInt8) : Buffer :=
  ⟨.wrapped (done ++ rest), 0, (done ++ rest).length, done.length⟩

theorem wrap_eq (data : List UInt8) : wrap data = reading [] data :=
  rfl

theorem remaining_reading (done rest : List UInt8) :
    (reading done rest).remaining = rest.length := by
  simp [remaining, hasStorage, reading]

theorem length_reading (done rest : List UInt8) : (reading done rest).length = done.length :=
  rfl

/-- Taking bytes that stand at the cursor moves them to what has been read. -/
theorem removeOctets_reading (done part rest : List UInt8) :
    (reading done (part ++ rest)).removeOctets part.length =
      ⟨.ok part, reading (done ++ part) rest⟩ := by
  have hroom : ¬(reading done (part ++ rest)).remaining < part.length := by
    rw [remaining_reading, List.length_append]
    omega
  have hslice : (reading done (part ++ rest)).slice done.length part.length = part := by
    simp [slice, reading, Storage.bytes]
  have hnext : { reading done (part ++ rest) with next := done.length + part.length } =
      reading (done ++ part) rest := by
    simp [reading]
  rw [removeOctets, if_neg hroom, ← hnext]
  exact congrArg (fun read => Outcome.mk (.ok read) _) hslice

end Buffer
end Asn1
end Kerberos
