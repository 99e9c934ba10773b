/-!
# Values under names

What is found under a name in a list of entries is the value of the first entry with this name.
-/

namespace Kerberos
namespace Entries

variable {α : Type} {entries : List (String × α)} {name : String} {value : α}

/-- The value of the first entry with a name is what is looked up. -/
theorem find?_map_eq_lookup (entries : List (String × α)) (name : String) :
    (entries.find? (·.1 == name)).map (·.2) = entries.lookup name := by
  induction entries with
  | nil => rfl
  | cons first rest ih =>
    rw [List.find?_cons, List.lookup_cons, ← ih, Bool.beq_comm]
    cases name == first.1 <;> rfl

theorem lookup_eq_none_iff : entries.lookup name = none ↔ name ∉ entries.map (·.1) := by
  rw [List.lookup_eq_none_iff]
  constructor
  · intro h hmem
    rcases List.mem_map.1 hmem with ⟨e, he, rfl⟩
    simpa using h e he
  · intro h e he
    simp only [bne_iff_ne]
    rintro rfl
    exact h (List.mem_map_of_mem he)

theorem mem_of_lookup (h : entries.lookup name = some value) : (name, value) ∈ entries := by
  rcases List.lookup_eq_some_iff.1 h with ⟨before, after, rfl, -⟩
  exact List.mem_append_right before List.mem_cons_self

/-- Where no name stands twice, an entry is found under its name. -/
theorem lookup_eq_some_iff_mem (h : (entries.map (·.1)).Nodup) :
    entries.lookup name = some value ↔ (name, value) ∈ entries := by
  refine ⟨mem_of_lookup, ?_⟩
  intro hmem
  rcases List.append_of_mem hmem with ⟨before, after, rfl⟩
  refine List.lookup_eq_some_iff.2 ⟨before, after, rfl, ?_⟩
  intro e he
  rw [List.map_append, List.map_cons, List.nodup_append] at h
  have hne : e.1 ≠ name := h.2.2 e.1 (List.mem_map_of_mem he) name List.mem_cons_self
  simpa using hne.symm

end Entries
end Kerberos
