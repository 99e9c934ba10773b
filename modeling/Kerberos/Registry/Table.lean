import Kerberos.Text.Utf8

/-!
# Tables by name

A table holds values under names, in ascending order of the UTF-8 bytes of the names. A name is
entered once; the first entry stays.
-/

namespace Kerberos
namespace Registry

/-- Values under names. -/
structure Table (α : Type) where
  entries : List (String × α)

namespace Table

variable {α : Type}

def precedes (a b : String) : Bool :=
  decide (Text.Utf8.encode a < Text.Utf8.encode b)

def empty : Table α :=
  ⟨[]⟩

def find? (t : Table α) (name : String) : Option α :=
  (t.entries.find? (·.1 == name)).map (·.2)

def contains (t : Table α) (name : String) : Bool :=
  t.entries.any (·.1 == name)

/-- The names in order. -/
def names (t : Table α) : List String :=
  t.entries.map (·.1)

def values (t : Table α) : List α :=
  t.entries.map (·.2)

/-- Puts an entry before the first one that its name does not follow. -/
def place (name : String) (value : α) : List (String × α) → List (String × α)
  | [] => [(name, value)]
  | e :: rest =>
    if precedes name e.1 then (name, value) :: e :: rest else e :: place name value rest

/-- Enters a value under a name that is free, and has no result if the name is taken. -/
def insert? (t : Table α) (name : String) (value : α) : Option (Table α) :=
  if t.contains name then none else some ⟨place name value t.entries⟩

/-- The table with the given entries; of two entries under one name the first one counts. -/
def ofList (entries : List (String × α)) : Table α :=
  entries.foldl (fun t e => (t.insert? e.1 e.2).getD t) empty

end Table
end Registry
end Kerberos
