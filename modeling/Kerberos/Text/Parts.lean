/-!
# Parts of a text

A text is cut at every occurrence of a separator. It has one part more than it has separators, so
the empty text is one empty part. Main statements: parts without the separator come back when the
text that joins them is cut, and the parts of a text join to it again.
-/

namespace Kerberos
namespace Text

def parts (separator : Char) : List Char → List (List Char)
  | [] => [[]]
  | c :: rest =>
    if c = separator then [] :: parts separator rest
    else
      match parts separator rest with
      | [] => [[c]]
      | first :: others => (c :: first) :: others

theorem parts_of_not_mem {separator : Char} {text : List Char} (h : separator ∉ text) :
    parts separator text = [text] := by
  induction text with
  | nil => rfl
  | cons c rest ih =>
    have hc : c ≠ separator := fun e => h (e ▸ List.mem_cons_self)
    have hrest : separator ∉ rest := fun e => h (List.mem_cons_of_mem c e)
    simp [parts, hc, ih hrest]

/-- What stands before the first separator is the first part. -/
theorem parts_append {separator : Char} {first : List Char} (h : separator ∉ first)
    (rest : List Char) :
    parts separator (first ++ separator :: rest) = first :: parts separator rest := by
  induction first with
  | nil => simp [parts]
  | cons c more ih =>
    have hc : c ≠ separator := fun e => h (e ▸ List.mem_cons_self)
    have hmore : separator ∉ more := fun e => h (List.mem_cons_of_mem c e)
    simp [parts, hc, ih hmore]

/-- Cutting a text gives back the parts it was joined from. -/
theorem parts_intercalate {separator : Char} {first : List Char} {others : List (List Char)}
    (h : ∀ part ∈ first :: others, separator ∉ part) :
    parts separator ([separator].intercalate (first :: others)) = first :: others := by
  induction others generalizing first with
  | nil => simpa using parts_of_not_mem (h first List.mem_cons_self)
  | cons second others ih =>
    have hrest : ∀ part ∈ second :: others, separator ∉ part :=
      fun part hp => h part (List.mem_cons_of_mem first hp)
    have hjoin : [separator].intercalate (first :: second :: others) =
        first ++ separator :: [separator].intercalate (second :: others) := by
      simp [List.intercalate]
    rw [hjoin, parts_append (h first List.mem_cons_self), ih hrest]

theorem parts_ne_nil (separator : Char) (text : List Char) : parts separator text ≠ [] := by
  cases text with
  | nil => exact List.cons_ne_nil _ _
  | cons c rest =>
    rw [parts]
    split
    · exact List.cons_ne_nil _ _
    · split <;> exact List.cons_ne_nil _ _

/-- A text is joined from its parts. -/
theorem intercalate_parts (separator : Char) (text : List Char) :
    [separator].intercalate (parts separator text) = text := by
  -- on the text: a character opens a part of its own or goes in front of the first one
  induction text with
  | nil => rfl
  | cons c rest ih =>
    rcases List.exists_cons_of_ne_nil (parts_ne_nil separator rest) with ⟨first, others, hparts⟩
    rw [hparts] at ih
    by_cases hc : c = separator
    · rw [parts, if_pos hc, hparts, List.intercalate_cons_cons, ih, hc]
      rfl
    · rw [parts, if_neg hc, hparts, ← ih]
      cases others with
      | nil => simp
      | cons second others => rw [List.intercalate_cons_cons, List.intercalate_cons_cons]; rfl

/-- If the reader of a part takes just what is written for a value, reading part by part takes just
what is written for the values. -/
theorem mapM_eq_some_iff {α β : Type} {read : α → Option β} {write : β → α}
    (h : ∀ part value, read part = some value ↔ part = write value) {parts : List α}
    {values : List β} : parts.mapM read = some values ↔ parts = values.map write := by
  induction parts generalizing values with
  | nil => cases values <;> simp
  | cons part rest ih =>
    cases values with
    | nil => simp [Option.bind_eq_some_iff]
    | cons first values =>
      simp only [List.mapM_cons, Option.bind_eq_bind, Option.bind_eq_some_iff, Option.pure_def,
        Option.some.injEq, List.map_cons, List.cons.injEq, h, ih]
      constructor
      · rintro ⟨value, hpart, others, hrest, rfl, rfl⟩
        exact ⟨hpart, hrest⟩
      · rintro ⟨hpart, hrest⟩
        exact ⟨first, hpart, values, hrest, rfl, rfl⟩

end Text
end Kerberos
