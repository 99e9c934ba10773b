import Kerberos.Proofs.Registry.Table
import Kerberos.Registry

/-!
# What a registry knows after some registrations

Ciphers and hashes are entered step by step, and a step whose name is taken in its table fails and
changes nothing. After any steps a registry finds under each name what was entered under it first,
and lists just that, in the order of the UTF-8 bytes of the names. What was entered in one table does
not matter for the other, and nor does the order of steps with different names. Main statement:
`registerAll_first_wins`.
-/

namespace Kerberos
namespace Registry

/-- A step that enters something in a registry. -/
inductive Registration
  | cipher (name : String) (p : Provider)
  | hash (info : HashInfo)

namespace Registration

def perform (r : Registry) : Registration → Outcome Error Registry Unit
  | cipher name p => r.registerCipher name p
  | hash info => r.registerHash info

def name : Registration → String
  | cipher name _ => name
  | hash info => info.name

/-- The entry that a step makes in the table of ciphers. -/
def cipherEntry? : Registration → Option (String × Provider)
  | cipher name p => some (name, p)
  | hash _ => none

/-- The entry that a step makes in the table of hashes. -/
def hashEntry? : Registration → Option (String × HashInfo)
  | cipher _ _ => none
  | hash info => some (info.name, info)

def cipherEntries (steps : List Registration) : List (String × Provider) :=
  steps.filterMap cipherEntry?

def hashEntries (steps : List Registration) : List (String × HashInfo) :=
  steps.filterMap hashEntry?

/-- A hash is entered under its own name. -/
theorem eq_of_mem_hashEntries {steps : List Registration} {e : String × HashInfo}
    (h : e ∈ hashEntries steps) : e = (e.2.name, e.2) := by
  rcases List.mem_filterMap.1 h with ⟨step, -, hentry⟩
  cases step with
  | cipher name p => cases hentry
  | hash info =>
    cases hentry
    rfl

/-- Whether some earlier step had the name of this one and was about the same table. -/
def Taken (earlier : List Registration) : Registration → Prop
  | cipher name _ => name ∈ (cipherEntries earlier).map (·.1)
  | hash info => info.name ∈ (hashEntries earlier).map (·.1)

instance (earlier : List Registration) (step : Registration) : Decidable (step.Taken earlier) :=
  match step with
  | cipher name _ => inferInstanceAs (Decidable (name ∈ (cipherEntries earlier).map (·.1)))
  | hash info => inferInstanceAs (Decidable (info.name ∈ (hashEntries earlier).map (·.1)))

/-- The steps by which the ciphers and hashes of the library are entered. -/
def builtin : List Registration :=
  Provider.all.map (fun p => cipher p.info.name p) ++ HashInfo.builtin.map hash

end Registration

open Registration (cipherEntries hashEntries)

/-- Makes some steps, one after the other, whether those before them succeeded or not. -/
def registerAll (r : Registry) (steps : List Registration) : Registry :=
  steps.foldl (fun r step => (step.perform r).after) r

/-- The registries that there are to begin with. -/
inductive Origin
  | empty
  | builtin

namespace Origin

def registry : Origin → Registry
  | empty => .empty
  | builtin => .builtin

/-- The steps that have made the registry. -/
def steps : Origin → List Registration
  | empty => []
  | builtin => Registration.builtin

end Origin

/-! ## One step -/

theorem registerCipher_eq (r : Registry) (name : String) (p : Provider) :
    r.registerCipher name p =
      if r.ciphers.find? name = none then ⟨.ok (), { r with ciphers := r.ciphers.enter (name, p) }⟩
      else ⟨.error (.typeExists name), r⟩ := by
  by_cases hfree : r.ciphers.find? name = none
  · rw [if_pos hfree, Table.enter_of_free hfree, registerCipher, Table.insert?_of_free hfree]
  · rw [if_neg hfree, registerCipher, Table.insert?_of_taken hfree]

theorem registerHash_eq (r : Registry) (info : HashInfo) :
    r.registerHash info =
      if r.hashes.find? info.name = none then
        ⟨.ok (), { r with hashes := r.hashes.enter (info.name, info) }⟩
      else ⟨.error (.typeExists info.name), r⟩ := by
  by_cases hfree : r.hashes.find? info.name = none
  · rw [if_pos hfree, Table.enter_of_free hfree, registerHash, Table.insert?_of_free hfree]
  · rw [if_neg hfree, registerHash, Table.insert?_of_taken hfree]

/-- A step enters its entries in both tables, one of which gets none. -/
theorem Registration.after_perform (r : Registry) (step : Registration) :
    (step.perform r).after =
      ⟨r.ciphers.enterAll (cipherEntries [step]), r.hashes.enterAll (hashEntries [step])⟩ := by
  cases step with
  | cipher name p =>
    have hentries : r.ciphers.enterAll (cipherEntries [cipher name p]) = r.ciphers.enter (name, p) :=
      rfl
    rw [hentries, perform, registerCipher_eq]
    by_cases hfree : r.ciphers.find? name = none
    · rw [if_pos hfree]
      rfl
    · rw [if_neg hfree, Table.enter_of_taken hfree]
      rfl
  | hash info =>
    have hentries : r.hashes.enterAll (hashEntries [hash info]) = r.hashes.enter (info.name, info) :=
      rfl
    rw [hentries, perform, registerHash_eq]
    by_cases hfree : r.hashes.find? info.name = none
    · rw [if_pos hfree]
      rfl
    · rw [if_neg hfree, Table.enter_of_taken hfree]
      rfl

/-! ## All steps -/

/-- Each table is filled with the entries of the steps that are about it. -/
theorem registerAll_eq (r : Registry) (steps : List Registration) :
    r.registerAll steps =
      ⟨r.ciphers.enterAll (cipherEntries steps), r.hashes.enterAll (hashEntries steps)⟩ := by
  -- on the steps, for the registry that those in front of them have left
  induction steps generalizing r with
  | nil => rfl
  | cons step rest ih =>
    have hciphers : cipherEntries (step :: rest) = cipherEntries [step] ++ cipherEntries rest :=
      List.filterMap_append (l := [step])
    have hhashes : hashEntries (step :: rest) = hashEntries [step] ++ hashEntries rest :=
      List.filterMap_append (l := [step])
    have hstep : r.registerAll (step :: rest) = (step.perform r).after.registerAll rest := rfl
    rw [hstep, ih, Registration.after_perform, hciphers, hhashes]
    simp only [Table.enterAll, List.foldl_append]

theorem registerAll_append (r : Registry) (first second : List Registration) :
    r.registerAll (first ++ second) = (r.registerAll first).registerAll second :=
  List.foldl_append

theorem Origin.registry_eq (origin : Origin) :
    origin.registry = Registry.empty.registerAll origin.steps := by
  cases origin with
  | empty => rfl
  | builtin =>
    rw [registerAll_eq]
    rfl

/-! ## Listings -/

/-- Whether a listing shows what was entered: each name once, with what was entered under it first,
and in ascending order. -/
structure Shows {α : Type} (listing entered : List (String × α)) : Prop where
  ascending : (listing.map (·.1)).Pairwise fun a b => Text.Utf8.encode a < Text.Utf8.encode b
  once : ∀ name, (listing.map (·.1)).count name = if name ∈ entered.map (·.1) then 1 else 0
  mem_iff : ∀ name value, (name, value) ∈ listing ↔ entered.lookup name = some value

theorem shows_enterAll {α : Type} (entered : List (String × α)) :
    Shows (Table.empty.enterAll entered).entries entered := by
  have hascending : Table.Ascending (Table.empty.enterAll entered).entries :=
    Table.ascending_enterAll List.Pairwise.nil entered
  have hmem : ∀ name value,
      (name, value) ∈ (Table.empty.enterAll entered).entries ↔ entered.lookup name = some value := by
    intro name value
    rw [Table.mem_entries_iff hascending, Table.find?_enterAll]
    rfl
  refine ⟨List.pairwise_map.2 hascending, ?_, hmem⟩
  intro name
  have hnames : name ∈ (Table.empty.enterAll entered).entries.map (·.1) ↔
      name ∈ entered.map (·.1) := by
    rw [← Decidable.not_iff_not, ← Entries.lookup_eq_none_iff, ← Entries.lookup_eq_none_iff,
      ← Table.find?_eq_lookup, Table.find?_enterAll]
    rfl
  rw [hascending.nodup_names.count]
  simp only [hnames]

/-! ## After any steps -/

section After

variable (origin : Origin) (steps : List Registration)

theorem registerAll_origin :
    origin.registry.registerAll steps =
      ⟨Table.empty.enterAll (cipherEntries (origin.steps ++ steps)),
        Table.empty.enterAll (hashEntries (origin.steps ++ steps))⟩ := by
  rw [origin.registry_eq, ← registerAll_append, registerAll_eq]
  rfl

theorem find?_ciphers_registerAll (name : String) :
    (origin.registry.registerAll steps).ciphers.find? name =
      (cipherEntries (origin.steps ++ steps)).lookup name := by
  rw [registerAll_origin, Table.find?_enterAll]
  rfl

theorem find?_hashes_registerAll (name : String) :
    (origin.registry.registerAll steps).hashes.find? name =
      (hashEntries (origin.steps ++ steps)).lookup name := by
  rw [registerAll_origin, Table.find?_enterAll]
  rfl

/-- A step whose name is free succeeds, and one whose name is taken is refused and changes nothing. -/
theorem perform_registerAll (step : Registration) :
    let r := origin.registry.registerAll steps
    (step.Taken (origin.steps ++ steps) ∧ step.perform r = ⟨.error (.typeExists step.name), r⟩) ∨
      (¬ step.Taken (origin.steps ++ steps) ∧ (step.perform r).answer = .ok ()) := by
  intro r
  cases step with
  | cipher name p =>
    have htaken : r.ciphers.find? name = none ↔
        ¬ (Registration.cipher name p).Taken (origin.steps ++ steps) := by
      rw [find?_ciphers_registerAll, Entries.lookup_eq_none_iff]
      rfl
    rw [Registration.perform, registerCipher_eq]
    by_cases hfree : r.ciphers.find? name = none
    · exact .inr ⟨htaken.1 hfree, by rw [if_pos hfree]⟩
    · exact .inl ⟨Decidable.not_not.1 fun hfree' => hfree (htaken.2 hfree'), if_neg hfree⟩
  | hash info =>
    have htaken : r.hashes.find? info.name = none ↔
        ¬ (Registration.hash info).Taken (origin.steps ++ steps) := by
      rw [find?_hashes_registerAll, Entries.lookup_eq_none_iff]
      rfl
    rw [Registration.perform, registerHash_eq]
    by_cases hfree : r.hashes.find? info.name = none
    · exact .inr ⟨htaken.1 hfree, by rw [if_pos hfree]⟩
    · exact .inl ⟨Decidable.not_not.1 fun hfree' => hfree (htaken.2 hfree'), if_neg hfree⟩

theorem map_values_hashes :
    (origin.registry.registerAll steps).hashes.values.map (fun info => (info.name, info)) =
      (origin.registry.registerAll steps).hashes.entries := by
  rw [Table.values, List.map_map]
  calc
    (origin.registry.registerAll steps).hashes.entries.map
        ((fun info => (info.name, info)) ∘ Prod.snd)
        = (origin.registry.registerAll steps).hashes.entries.map id := by
          refine List.map_congr_left ?_
          intro e he
          rw [registerAll_origin] at he
          exact (Registration.eq_of_mem_hashEntries (Table.mem_of_mem_ofList he)).symm
    _ = (origin.registry.registerAll steps).hashes.entries := List.map_id _

end After

/-- Steps with different names can be made in any order. -/
theorem registerAll_eq_of_perm (origin : Origin) {steps steps' : List Registration}
    (hperm : steps'.Perm steps) (hciphers : ((cipherEntries steps).map (·.1)).Nodup)
    (hhashes : ((hashEntries steps).map (·.1)).Nodup) :
    origin.registry.registerAll steps' = origin.registry.registerAll steps := by
  have hstart : Table.Ascending origin.registry.ciphers.entries ∧
      Table.Ascending origin.registry.hashes.entries := by
    rw [origin.registry_eq, registerAll_eq]
    exact ⟨Table.ascending_enterAll List.Pairwise.nil _, Table.ascending_enterAll List.Pairwise.nil _⟩
  have hciphersPerm : (cipherEntries steps').Perm (cipherEntries steps) := hperm.filterMap _
  have hhashesPerm : (hashEntries steps').Perm (hashEntries steps) := hperm.filterMap _
  rw [registerAll_eq, registerAll_eq, Table.enterAll_eq_of_perm hstart.1 hciphersPerm hciphers,
    Table.enterAll_eq_of_perm hstart.2 hhashesPerm hhashes]

/-- After any steps, whatever the registry was to begin with. A further step fails if and only if its
name is taken in its table, and then it changes nothing. A step about one table leaves the other as
it is. What is found under a name is what was entered under it first, where the ciphers and hashes of
the library count as entered before all others, and nothing is found under any other name. The
listings show just that, each name once and in ascending order of its bytes. Steps with different
names lead to the same registry in any order. -/
theorem registerAll_first_wins (origin : Origin) (steps : List Registration) :
    let r := origin.registry.registerAll steps
    let made := origin.steps ++ steps
    (∀ step : Registration,
        (∀ e, (step.perform r).answer = .error e ↔ e = .typeExists step.name ∧ step.Taken made) ∧
          (step.Taken made → (step.perform r).after = r)) ∧
      (∀ name p, (r.registerCipher name p).after.hashes = r.hashes) ∧
      (∀ info, (r.registerHash info).after.ciphers = r.ciphers) ∧
      (∀ name, r.cipher name =
        match (cipherEntries made).lookup name with
        | some p => .ok p
        | none => .error (.typeNotFound name)) ∧
      (∀ name, r.hash name =
        match (hashEntries made).lookup name with
        | some info => .ok info
        | none => .error (.typeNotFound name)) ∧
      Shows r.ciphers.entries (cipherEntries made) ∧
      Shows (r.hashes.values.map fun info => (info.name, info)) (hashEntries made) ∧
      ∀ steps' : List Registration, steps'.Perm steps →
        ((cipherEntries steps).map (·.1)).Nodup → ((hashEntries steps).map (·.1)).Nodup →
        origin.registry.registerAll steps' = r := by
  intro r made
  refine ⟨?_, ?_, ?_, ?_, ?_, ?_, ?_, ?_⟩
  · intro step
    rcases perform_registerAll origin steps step with ⟨htaken, hrefused⟩ | ⟨hfree, hdone⟩
    · rw [hrefused]
      refine ⟨?_, fun _ => rfl⟩
      intro e
      constructor
      · intro he
        cases he
        exact ⟨rfl, htaken⟩
      · rintro ⟨rfl, -⟩
        rfl
    · rw [hdone]
      refine ⟨?_, fun htaken => absurd htaken hfree⟩
      intro e
      constructor
      · intro he
        cases he
      · rintro ⟨-, htaken⟩
        exact absurd htaken hfree
  · intro name p
    rw [registerCipher_eq]
    split <;> rfl
  · intro info
    rw [registerHash_eq]
    split <;> rfl
  · intro name
    have hfind := find?_ciphers_registerAll origin steps name
    cases hlookup : (cipherEntries made).lookup name with
    | none => simp only [cipher, r, hfind, made, hlookup]
    | some p => simp only [cipher, r, hfind, made, hlookup]
  · intro name
    have hfind := find?_hashes_registerAll origin steps name
    cases hlookup : (hashEntries made).lookup name with
    | none => simp only [hash, r, hfind, made, hlookup]
    | some info => simp only [hash, r, hfind, made, hlookup]
  · simp only [r, registerAll_origin]
    exact shows_enterAll _
  · simp only [r, map_values_hashes]
    rw [registerAll_origin]
    exact shows_enterAll _
  · intro steps' hperm hciphers hhashes
    exact registerAll_eq_of_perm origin hperm hciphers hhashes

/-- New entries in two orders, with names that begin alike, a cipher and a hash of one name, and the
name of a cipher of the library. -/
theorem registerAll_first_wins_reversed :
    let steps : List Registration :=
      [.cipher "é" .des, .cipher "des" .des, .hash ⟨"des", 20, 64⟩, .cipher "arcfour" .des,
        .hash ⟨"SHA1-96", 12, 64⟩]
    let r := Origin.builtin.registry.registerAll steps
    steps.reverse.Perm steps ∧ ((cipherEntries steps).map (·.1)).Nodup ∧
      ((hashEntries steps).map (·.1)).Nodup ∧
      Origin.builtin.registry.registerAll steps.reverse = r ∧
      r.cipher "arcfour" = .ok .arcfour ∧
      r.ciphers.names = ["arcfour", "camellia128", "camellia256", "des", "des-cbc", "é"] ∧
      r.hashes.names = ["MD5", "SHA1", "SHA1-96", "SHA256", "des"] := by
  intro steps r
  have hperm : steps.reverse.Perm steps := List.reverse_perm steps
  have hciphers : ((cipherEntries steps).map (·.1)).Nodup := by
    decide
  have hhashes : ((hashEntries steps).map (·.1)).Nodup := by
    decide
  rcases registerAll_first_wins .builtin steps with ⟨-, -, -, hcipher, -, -, -, horder⟩
  refine ⟨hperm, hciphers, hhashes, horder _ hperm hciphers hhashes, ?_, ?_, ?_⟩
  · rw [hcipher "arcfour"]
    rfl
  · decide +kernel
  · decide +kernel

end Registry
end Kerberos
