import Kerberos.Proofs.Asn1.Reader

/-!
# Operations that fail

Every operation on a buffer that can be reached fails for listed reasons and for no others. One
that fails leaves the buffer as it was, also where it moves the cursor before it can fail. Main
statement: `Operation.perform_fails_iff`.
-/

namespace Kerberos
namespace Asn1

/-- What can be done with a buffer. -/
inductive Operation
  | wrapData (data : Option (List UInt8))
  | insert (item : Item)
  | remove (shape : Item.Shape)
  | window (n : Nat)
  | sync (other : Buffer)

/-- Performs an operation on a buffer, whatever the operation would answer if it succeeds. -/
def Operation.perform (b : Buffer) : Operation → Outcome Error Buffer Unit
  | wrapData data => b.wrapData data
  | insert item => item.insert b
  | remove shape => ⟨(Item.remove b shape).answer.map fun _ => (), (Item.remove b shape).after⟩
  | window n => ⟨(b.window n).map fun _ => (), b⟩
  | sync other => ⟨.ok (), b.sync other⟩

/-- The reasons for which a buffer refuses an operation, with the error that each of them gives. -/
inductive Operation.Refuses (b : Buffer) : Operation → Error → Prop
  | nothingToWrap : Refuses b (wrapData none) .missingField
  /-- Bytes that were given are only read, so not even nothing is put in front of them. -/
  | readOnly (item : Item) (hwrapped : b.isWrapped = true) : Refuses b (insert item) .overrun
  | tooLarge (item : Item) (hown : b.isWrapped = false) (hshort : b.remaining < item.bytes.length)
      (hlarge : Size.largestAllocation <
        b.capacity + max increment (item.bytes.length - b.remaining)) :
      Refuses b (insert item) .outOfMemory
  | tooShort (shape : Item.Shape) (hshort : b.remaining < shape.size) :
      Refuses b (remove shape) .overrun
  | notText (n : Nat) (hroom : n ≤ b.remaining)
      (hbytes : ∀ text, b.slice b.next n ≠ Text.Utf8.encode text) :
      Refuses b (remove (.text n)) .badFormat
  | notReading (n : Nat) (hown : b.isWrapped = false) : Refuses b (window n) .missingField
  | beyond (n : Nat) (hwrapped : b.isWrapped = true) (hshort : b.remaining < n) :
      Refuses b (window n) .overrun

namespace Operation

variable {b : Buffer}

/-- No buffer has two errors for one operation. -/
theorem Refuses.unique {op : Operation} {e e' : Error} (h : op.Refuses b e)
    (h' : op.Refuses b e') : e = e' := by
  cases h with
  | nothingToWrap =>
    cases h'
    rfl
  | readOnly item hwrapped =>
    cases h' with
    | readOnly => rfl
    | tooLarge _ hown => simp [hown] at hwrapped
  | tooLarge item hown =>
    cases h' with
    | readOnly _ hwrapped => simp [hown] at hwrapped
    | tooLarge => rfl
  | tooShort shape hshort =>
    cases h' with
    | tooShort => rfl
    | notText n hroom => exact absurd hshort (Nat.not_lt_of_le hroom)
  | notText n hroom =>
    cases h' with
    | tooShort _ hshort => exact absurd hshort (Nat.not_lt_of_le hroom)
    | notText => rfl
  | notReading n hown =>
    cases h' with
    | notReading => rfl
    | beyond _ hwrapped => simp [hown] at hwrapped
  | beyond n hwrapped =>
    cases h' with
    | notReading _ hown => simp [hown] at hwrapped
    | beyond => rfl

/-! ## How each operation ends -/

/-- An operation ends refused and with the buffer as it was, or it is not refused. -/
inductive Ends (b : Buffer) (op : Operation) : Prop
  | failed {e : Error} (hrefused : op.Refuses b e) (hperform : op.perform b = ⟨.error e, b⟩)
  | done (b' : Buffer) (haccepted : ∀ e, ¬op.Refuses b e) (hperform : op.perform b = ⟨.ok (), b'⟩)

theorem ends_wrapData (b : Buffer) (data : Option (List UInt8)) : Ends b (wrapData data) := by
  cases data with
  | none => exact .failed .nothingToWrap rfl
  | some data =>
    refine .done _ ?_ rfl
    intro e hrefused
    cases hrefused

/-- The storage is only made larger for bytes that do not fit. -/
theorem ends_insert (h : b.WellFormed) (item : Item) : Ends b (insert item) := by
  have hinsert : (insert item).perform b = b.insert item.bytes := Item.insert_eq b item
  cases hkind : b.isWrapped with
  | true =>
    refine .failed (.readOnly item hkind) ?_
    rw [hinsert, Buffer.insert, hkind]
    rfl
  | false =>
    have hlimit : b.limit = b.capacity := h.limit_eq_length hkind
    -- the bytes fit, or more room would have to be too large, or more room is made
    rcases h.reserve_cases hkind item.bytes.length with
      ⟨hroom, hreserve⟩ | ⟨hshort, hlarge, hfull⟩ | ⟨hshort, hsmall, hreserve⟩
    · refine .done _ ?_ (hinsert.trans (Buffer.insert_eq_place hkind hreserve))
      intro e hrefused
      cases hrefused with
      | readOnly _ hwrapped => simp [hkind] at hwrapped
      | tooLarge _ _ hshort => exact Nat.not_lt_of_le hroom hshort
    · rw [hlimit, Nat.max_comm] at hlarge
      exact .failed (.tooLarge item hkind hshort hlarge)
        (hinsert.trans (Buffer.insert_of_reserve_error hkind hfull))
    · refine .done _ ?_ (hinsert.trans (Buffer.insert_eq_place hkind hreserve))
      intro e hrefused
      cases hrefused with
      | readOnly _ hwrapped => simp [hkind] at hwrapped
      | tooLarge _ _ _ hlarge =>
        rw [hlimit, Nat.max_comm] at hsmall
        exact Nat.not_lt_of_le hsmall hlarge

/-- A text moves the cursor before its bytes are looked at, and back if they are not UTF-8. -/
theorem ends_remove (b : Buffer) (shape : Item.Shape) : Ends b (remove shape) := by
  by_cases hshort : b.remaining < shape.size
  · refine .failed (.tooShort shape hshort) ?_
    rw [perform, Item.remove_eq, if_pos hshort]
    rfl
  · cases hitem : Item.ofBytes? shape (b.slice b.next shape.size) with
    | none =>
      rcases Item.ofBytes?_eq_none_iff.1 hitem with ⟨⟨n, rfl⟩, hbytes⟩
      refine .failed (.notText n (Nat.le_of_not_lt hshort) hbytes) ?_
      rw [perform, Item.remove_eq, if_neg hshort, hitem]
      rfl
    | some item =>
      refine .done (b.advance shape.size) ?_ ?_
      · intro e hrefused
        cases hrefused with
        | tooShort _ hshort' => exact hshort hshort'
        | notText n _ hbytes =>
          have hnone := Item.ofBytes?_eq_none_iff.2 ⟨⟨n, rfl⟩, hbytes⟩
          exact Option.some_ne_none item (hitem.symm.trans hnone)
      · rw [perform, Item.remove_eq, if_neg hshort, hitem]
        rfl

/-- The end of a window is compared as a position, which says the same of its length. -/
theorem ends_window (h : b.WellFormed) (n : Nat) : Ends b (window n) := by
  cases hkind : b.isWrapped with
  | false =>
    refine .failed (.notReading n hkind) ?_
    cases hstorage : b.storage with
    | empty => simp only [perform, Buffer.window, hstorage, Except.map]
    | owned room => simp only [perform, Buffer.window, hstorage, Except.map]
    | wrapped data => simp [Buffer.isWrapped, hstorage] at hkind
  | true =>
    have hposition : b.limit < b.next + n ↔ b.remaining < n := by
      rw [h.remaining_eq, Nat.sub_lt_iff_lt_add' h.next_le_limit]
    cases hstorage : b.storage with
    | empty => simp [Buffer.isWrapped, hstorage] at hkind
    | owned room => simp [Buffer.isWrapped, hstorage] at hkind
    | wrapped data =>
      by_cases hshort : b.remaining < n
      · refine .failed (.beyond n hkind hshort) ?_
        simp only [perform, Buffer.window, hstorage, if_pos (hposition.2 hshort), Except.map]
      · refine .done b ?_ ?_
        · intro e hrefused
          cases hrefused with
          | notReading _ hown => simp [hkind] at hown
          | beyond _ _ hshort' => exact hshort hshort'
        · have hinside : ¬b.limit < b.next + n := mt hposition.1 hshort
          simp only [perform, Buffer.window, hstorage, if_neg hinside, Except.map]

theorem ends (h : b.WellFormed) (op : Operation) : Ends b op := by
  cases op with
  | wrapData data => exact ends_wrapData b data
  | insert item => exact ends_insert h item
  | remove shape => exact ends_remove b shape
  | window n => exact ends_window h n
  | sync other =>
    refine .done _ ?_ rfl
    intro e hrefused
    cases hrefused

/-- An operation on a buffer that can be reached fails with an error if and only if the buffer has
that reason to refuse it, and a failure leaves the buffer as it was. -/
theorem perform_fails_iff (h : b.Reachable) (op : Operation) (e : Error) :
    ((op.perform b).answer = .error e ↔ op.Refuses b e) ∧
      ((op.perform b).answer = .error e → (op.perform b).after = b) := by
  -- the way an operation ends settles both directions, since a refusal has only one error
  cases ends h.wellFormed op with
  | @failed e' hrefused hperform =>
    rw [hperform]
    refine ⟨?_, fun _ => rfl⟩
    constructor
    · intro herror
      cases herror
      exact hrefused
    · intro hrefused'
      rw [hrefused.unique hrefused']
  | done b' haccepted hperform =>
    rw [hperform]
    refine ⟨?_, ?_⟩
    · constructor
      · intro herror
        cases herror
      · intro hrefused
        exact absurd hrefused (haccepted e)
    · intro herror
      cases herror

/-- The second of four bytes is a continuation byte, and no text begins with one. -/
theorem perform_fails_iff_continuation :
    let b := (Buffer.wrap [0x41, 0x80, 0x42, 0x43]).removeOctet.after
    b.Reachable ∧
      (((remove (.text 2)).perform b).answer = .error .badFormat ↔
        (remove (.text 2)).Refuses b .badFormat) ∧
      ((remove (.text 2)).perform b).answer = .error .badFormat ∧
      ((remove (.text 2)).perform b).after = b := by
  intro b
  have hb : b.Reachable := .removeOctet (.wrap _)
  have hfailed : ((remove (.text 2)).perform b).answer = .error .badFormat := by
    rfl
  have hfails := perform_fails_iff hb (remove (.text 2)) .badFormat
  exact ⟨hb, hfails.1, hfailed, hfails.2 hfailed⟩

end Operation
end Asn1
end Kerberos
