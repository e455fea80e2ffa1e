import BundleBuilder.ClassDecl.Basic
import BundleBuilder.Table.Insertion

/-!
# Class tables

The classes that are known by name, in the order in which they became known. A later declaration of
a name replaces the earlier one in its place.
-/

set_option autoImplicit false

namespace BundleBuilder

open Table

/-- A table of class declarations by their qualified names. -/
structure ClassTable where
  byName : InsertionTable ClassDecl
  named : ∀ entry ∈ byName.entries, entry.2.name = entry.1

namespace ClassTable

/-- The table without classes. -/
def empty : ClassTable := ⟨.empty, fun _ h => nomatch h⟩

instance : Inhabited ClassTable := ⟨empty⟩

theorem mem_putEntry {α : Type} {key : String} {value : α} {entries : List (String × α)}
    {entry : String × α} (h : entry ∈ putEntry key value entries) :
    entry = (key, value) ∨ entry ∈ entries := by
  induction entries with
  | nil => simpa [putEntry] using h
  | cons head tail ih =>
    simp only [putEntry] at h
    split at h
    · rcases List.mem_cons.1 h with h | h
      · exact .inl h
      · exact .inr (List.mem_cons_of_mem _ h)
    · rcases List.mem_cons.1 h with h | h
      · exact .inr (h ▸ List.mem_cons_self)
      · exact (ih h).imp id (List.mem_cons_of_mem _)

/-- The table with a class, which replaces a class of the same name. -/
def insert (table : ClassTable) (decl : ClassDecl) : ClassTable where
  byName := table.byName.insert decl.name decl
  named := by
    intro entry h
    rcases mem_putEntry h with rfl | h
    · rfl
    · exact table.named entry h

/-- The table with all classes of a list, inserted one after the other. -/
def insertAll (table : ClassTable) (decls : List ClassDecl) : ClassTable :=
  decls.foldl insert table

/-- The class of a name. -/
def find? (table : ClassTable) (name : String) : Option ClassDecl := table.byName.find? name

/-- Whether a class of a name is known. -/
def contains (table : ClassTable) (name : String) : Bool := table.byName.contains name

/-- The names of the classes, in the order of the table. -/
def names (table : ClassTable) : List String := table.byName.keys

/-- The classes, in the order of the table. -/
def classes (table : ClassTable) : List ClassDecl := table.byName.values

/-- The number of classes. -/
def size (table : ClassTable) : Nat := table.byName.size

/-- A class that is found is listed under its name. -/
theorem mem_names_of_find? {table : ClassTable} {name : String} {decl : ClassDecl}
    (h : table.find? name = some decl) : name ∈ table.names :=
  InsertionTable.mem_keys_of_find? h

/-- A class is found under its own name only. -/
theorem name_of_find? {table : ClassTable} {name : String} {decl : ClassDecl}
    (h : table.find? name = some decl) : decl.name = name := by
  have hmem : (name, decl) ∈ table.byName.entries := by
    unfold find? InsertionTable.find? at h
    generalize table.byName.entries = entries at h ⊢
    induction entries with
    | nil => simp at h
    | cons entry rest ih =>
      obtain ⟨k, v⟩ := entry
      rw [List.lookup_cons] at h
      by_cases hk : name = k
      · subst hk
        simp at h
        subst h
        exact List.mem_cons_self
      · have hbeq : (name == k) = false := by simpa using hk
        rw [hbeq] at h
        exact List.mem_cons_of_mem _ (ih h)
  exact table.named _ hmem

end ClassTable

end BundleBuilder
