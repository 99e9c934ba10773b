import Kerberos.Proofs.Entries
import Kerberos.Proofs.Text.Utf8
import Kerberos.Registry.Table

/-!
# Tables that are filled step by step

Values are entered in a table one after the other, and the first one under each name stays. The
entries are in strictly ascending order then, and what is found under a name is the first value that
was entered under it. The two together determine the table, so the order in which different names
were entered leaves no trace: `enterAll_eq_of_perm`.
-/

namespace Kerberos
namespace Registry
namespace Table

open Entries (lookup_eq_none_iff lookup_eq_some_iff_mem mem_of_lookup)
open Text.Utf8 (encode)

variable {α : Type} {t t' : Table α} {e : String × α} {name : String} {value : α}
  {entries : List (String × α)}

/-! ## The order of names -/

theorem precedes_iff {a b : String} : precedes a b = true ↔ encode a < encode b :=
  decide_eq_true_iff

/-- Different names have different bytes, so one of them comes first. -/
theorem encode_lt_of_not_lt {a b : String} (hne : a ≠ b) (h : ¬ encode a < encode b) :
    encode b < encode a := by
  apply Decidable.byContradiction
  intro h'
  have hsame : encode a = encode b := List.le_antisymm (List.not_lt.1 h') (List.not_lt.1 h)
  exact hne (Text.Utf8.encode_injective hsame)

/-- Whether entries stand in strictly ascending order of their names. -/
def Ascending (entries : List (String × α)) : Prop :=
  entries.Pairwise fun e e' => encode e.1 < encode e'.1

theorem Ascending.nodup_names (h : Ascending entries) : (entries.map (·.1)).Nodup := by
  refine List.pairwise_map.2 (h.imp ?_)
  intro e e' hlt heq
  rw [heq] at hlt
  exact List.lt_irrefl _ hlt

theorem Ascending.nodup (h : Ascending entries) : entries.Nodup :=
  (List.pairwise_map.1 h.nodup_names).imp fun hne heq => hne (congrArg Prod.fst heq)

/-! ## Looking up -/

theorem find?_eq_lookup (t : Table α) (name : String) : t.find? name = t.entries.lookup name :=
  Entries.find?_map_eq_lookup t.entries name

theorem lookup_singleton (name : String) (e : String × α) :
    [e].lookup name = if name = e.1 then some e.2 else none := by
  rcases e with ⟨first, value⟩
  rw [List.lookup_cons]
  by_cases hname : name = first
  · rw [if_pos hname, beq_iff_eq.2 hname]
  · rw [if_neg hname, beq_eq_false_iff_ne.2 hname]
    rfl

theorem mem_entries_iff (h : Ascending t.entries) :
    (name, value) ∈ t.entries ↔ t.find? name = some value := by
  rw [find?_eq_lookup, lookup_eq_some_iff_mem h.nodup_names]

/-- Tables in order in which the same is found under each name are equal. -/
theorem eq_of_find?_eq (h : Ascending t.entries) (h' : Ascending t'.entries)
    (hfind : ∀ name, t.find? name = t'.find? name) : t = t' := by
  have hperm : t.entries.Perm t'.entries := by
    refine (List.perm_ext_iff_of_nodup h.nodup h'.nodup).2 ?_
    rintro ⟨name, value⟩
    rw [mem_entries_iff h, mem_entries_iff h', hfind]
  have hentries : t.entries = t'.entries := by
    refine List.Perm.eq_of_pairwise ?_ h h' hperm
    intro e e' _ _ hlt hlt'
    exact absurd hlt' (List.lt_asymm hlt)
  cases t
  cases t'
  exact congrArg Table.mk hentries

/-! ## Entering -/

theorem mem_place {entries : List (String × α)} :
    e ∈ place name value entries ↔ e = (name, value) ∨ e ∈ entries := by
  induction entries with
  | nil => simp [place]
  | cons first rest ih =>
    rw [place]
    by_cases hprecedes : precedes name first.1 = true
    · rw [if_pos hprecedes, List.mem_cons]
    · rw [if_neg hprecedes, List.mem_cons, ih, List.mem_cons, or_left_comm]

theorem ascending_place (h : Ascending entries) (hfree : name ∉ entries.map (·.1)) :
    Ascending (place name value entries) := by
  induction entries with
  | nil => exact List.pairwise_singleton _ _
  | cons first rest ih =>
    rcases List.pairwise_cons.1 h with ⟨hfirst, hrest⟩
    rw [List.map_cons, List.mem_cons, not_or] at hfree
    rw [place]
    by_cases hprecedes : precedes name first.1 = true
    · rw [if_pos hprecedes]
      have hlt : encode name < encode first.1 := precedes_iff.1 hprecedes
      refine List.pairwise_cons.2 ⟨?_, h⟩
      intro e he
      rcases List.mem_cons.1 he with rfl | hlater
      · exact hlt
      · exact List.lt_trans hlt (hfirst e hlater)
    · rw [if_neg hprecedes]
      -- the new entry comes somewhere behind the first one, which it does not precede
      have hlt : encode first.1 < encode name :=
        encode_lt_of_not_lt hfree.1 fun hlt => hprecedes (precedes_iff.2 hlt)
      refine List.pairwise_cons.2 ⟨?_, ih hrest hfree.2⟩
      intro e he
      rcases mem_place.1 he with rfl | hlater
      · exact hlt
      · exact hfirst e hlater

theorem lookup_place (hfree : name ∉ entries.map (·.1)) (other : String) :
    (place name value entries).lookup other =
      (entries.lookup other).or ([(name, value)].lookup other) := by
  induction entries with
  | nil => rfl
  | cons first rest ih =>
    rw [List.map_cons, List.mem_cons, not_or] at hfree
    rw [place]
    by_cases hprecedes : precedes name first.1 = true
    · rw [if_pos hprecedes]
      -- in front of all entries it is found under its own name only, which is none of theirs
      by_cases hother : other = name
      · have hnone : (first :: rest).lookup other = none := by
          rw [hother, lookup_eq_none_iff, List.map_cons, List.mem_cons, not_or]
          exact hfree
        rw [hnone, hother, Option.none_or]
        simp
      · have hbeq : (other == name) = false := by simpa using hother
        simp [List.lookup_cons, hbeq]
    · rw [if_neg hprecedes, List.lookup_cons, List.lookup_cons, ih hfree.2]
      cases other == first.1 <;> rfl

/-- The table with one entry more, if its name is free, and otherwise as it was. -/
def enter (t : Table α) (e : String × α) : Table α :=
  (t.insert? e.1 e.2).getD t

def enterAll (t : Table α) (entries : List (String × α)) : Table α :=
  entries.foldl enter t

theorem ofList_eq (entries : List (String × α)) : ofList entries = empty.enterAll entries :=
  rfl

theorem contains_iff : t.contains name = true ↔ t.find? name ≠ none := by
  rw [find?_eq_lookup, Ne, lookup_eq_none_iff, Decidable.not_not, contains, List.any_eq_true,
    List.mem_map]
  simp only [beq_iff_eq]

theorem insert?_of_taken (h : t.find? name ≠ none) : t.insert? name value = none := by
  rw [insert?, if_pos (contains_iff.2 h)]

theorem insert?_of_free (h : t.find? name = none) :
    t.insert? name value = some ⟨place name value t.entries⟩ := by
  rw [insert?, if_neg fun htaken => contains_iff.1 htaken h]

theorem enter_of_taken (h : t.find? e.1 ≠ none) : t.enter e = t := by
  rw [enter, insert?_of_taken h, Option.getD_none]

theorem enter_of_free (h : t.find? e.1 = none) : t.enter e = ⟨place e.1 e.2 t.entries⟩ := by
  rw [enter, insert?_of_free h, Option.getD_some]

theorem ascending_enter (h : Ascending t.entries) (e : String × α) :
    Ascending (t.enter e).entries := by
  by_cases hfree : t.find? e.1 = none
  · rw [enter_of_free hfree]
    rw [find?_eq_lookup, lookup_eq_none_iff] at hfree
    exact ascending_place h hfree
  · rw [enter_of_taken hfree]
    exact h

/-- An entry is found under its name unless something else was there before. -/
theorem find?_enter (t : Table α) (e : String × α) (name : String) :
    (t.enter e).find? name = (t.find? name).or ([e].lookup name) := by
  by_cases hfree : t.find? e.1 = none
  · rw [enter_of_free hfree, find?_eq_lookup, find?_eq_lookup]
    rw [find?_eq_lookup, lookup_eq_none_iff] at hfree
    exact lookup_place hfree name
  · rw [enter_of_taken hfree, lookup_singleton]
    by_cases hname : name = e.1
    · rcases Option.ne_none_iff_exists'.1 hfree with ⟨value, hvalue⟩
      rw [hname, hvalue, Option.some_or]
    · rw [if_neg hname, Option.or_none]

theorem ascending_enterAll (h : Ascending t.entries) (entries : List (String × α)) :
    Ascending (t.enterAll entries).entries := by
  induction entries generalizing t with
  | nil => exact h
  | cons e rest ih => exact ih (ascending_enter h e)

/-- What was in the table before is found first, and then the first of the new entries. -/
theorem find?_enterAll (t : Table α) (entries : List (String × α)) (name : String) :
    (t.enterAll entries).find? name = (t.find? name).or (entries.lookup name) := by
  induction entries generalizing t with
  | nil => exact Option.or_none.symm
  | cons e rest ih =>
    calc
      (t.enterAll (e :: rest)).find? name
          = ((t.find? name).or ([e].lookup name)).or (rest.lookup name) := by
            rw [← find?_enter]
            exact ih (t.enter e)
      _ = (t.find? name).or (([e] ++ rest).lookup name) := by
            rw [Option.or_assoc, List.lookup_append]

/-- Entries under different names can be entered in any order. -/
theorem enterAll_eq_of_perm (h : Ascending t.entries) {entries' : List (String × α)}
    (hperm : entries'.Perm entries) (hdistinct : (entries.map (·.1)).Nodup) :
    t.enterAll entries' = t.enterAll entries := by
  have hdistinct' : (entries'.map (·.1)).Nodup := (hperm.map (·.1)).nodup_iff.2 hdistinct
  apply eq_of_find?_eq (ascending_enterAll h entries') (ascending_enterAll h entries)
  intro name
  have hlookup : entries'.lookup name = entries.lookup name := by
    ext value
    rw [lookup_eq_some_iff_mem hdistinct', lookup_eq_some_iff_mem hdistinct, hperm.mem_iff]
  rw [find?_enterAll, find?_enterAll, hlookup]

/-- A table that was filled holds nothing but what was entered in it. -/
theorem mem_of_mem_ofList (h : e ∈ (ofList entries).entries) : e ∈ entries := by
  have hfound : (ofList entries).find? e.1 = some e.2 :=
    (mem_entries_iff (ascending_enterAll List.Pairwise.nil entries)).1 h
  rw [ofList_eq, find?_enterAll] at hfound
  exact mem_of_lookup hfound

theorem mem_entries_of_find? (h : t.find? name = some value) : ∃ e ∈ t.entries, e.2 = value := by
  rw [find?_eq_lookup] at h
  exact ⟨(name, value), mem_of_lookup h, rfl⟩

end Table
end Registry
end Kerberos
