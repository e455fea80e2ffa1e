/-!
# Tables sorted by key

A table maps each key to one value and lists its keys in the order of their code points. Two tables
with the same entries are equal whatever the order of the insertions, because the entries are
strictly sorted. The fields of a controller and the routes of a dispatch class are tables of this
kind.
-/

set_option autoImplicit false

namespace BundleBuilder.Table

/-- Puts a value at its key in a sorted list of entries. -/
def putSorted {α : Type} (key : String) (value : α) : List (String × α) → List (String × α)
  | [] => [(key, value)]
  | entry :: rest =>
    if key < entry.1 then (key, value) :: entry :: rest
    else if key = entry.1 then (key, value) :: rest
    else entry :: putSorted key value rest

/-- Entries in strictly ascending order of their keys. -/
def StrictlySorted {α : Type} (entries : List (String × α)) : Prop :=
  entries.Pairwise fun a b => a.1 < b.1

theorem mem_putSorted {α : Type} {key : String} {value : α} {entries : List (String × α)}
    {entry : String × α} (h : entry ∈ putSorted key value entries) :
    entry = (key, value) ∨ entry ∈ entries := by
  induction entries with
  | nil => simpa [putSorted] using h
  | cons head tail ih =>
    simp only [putSorted] at h
    split at h
    · simpa using h
    · split at h
      · rcases List.mem_cons.1 h with h | h
        · exact .inl h
        · exact .inr (List.mem_cons_of_mem _ h)
      · rcases List.mem_cons.1 h with h | h
        · exact .inr (h ▸ List.mem_cons_self)
        · exact (ih h).imp id (List.mem_cons_of_mem _)

theorem lt_of_not_lt_of_ne {a b : String} (hlt : ¬ a < b) (hne : ¬ a = b) : b < a := by
  by_cases h : b < a
  · exact h
  · exact absurd (String.le_antisymm h hlt) (fun e => hne e)

/-- Insertion keeps the entries strictly sorted. -/
theorem StrictlySorted.putSorted {α : Type} {entries : List (String × α)} (key : String)
    (value : α) (h : StrictlySorted entries) : StrictlySorted (putSorted key value entries) := by
  induction entries with
  | nil => simp [StrictlySorted, Table.putSorted]
  | cons head tail ih =>
    have hhead : ∀ e ∈ tail, head.1 < e.1 := (List.pairwise_cons.1 h).1
    have htail : StrictlySorted tail := (List.pairwise_cons.1 h).2
    simp only [Table.putSorted]
    split
    · next hlt =>
      refine List.pairwise_cons.2 ⟨?_, h⟩
      intro e he
      rcases List.mem_cons.1 he with rfl | he
      · exact hlt
      · exact String.lt_trans hlt (hhead e he)
    · split
      · next _ heq =>
        refine List.pairwise_cons.2 ⟨?_, htail⟩
        intro e he
        show key < e.1
        rw [heq]
        exact hhead e he
      · next hlt hne =>
        refine List.pairwise_cons.2 ⟨?_, ih htail⟩
        intro e he
        rcases mem_putSorted he with rfl | he
        · exact lt_of_not_lt_of_ne hlt hne
        · exact hhead e he

/-- A finite map whose keys are in strictly ascending order. -/
structure SortedTable (α : Type) where
  entries : List (String × α)
  sorted : StrictlySorted entries

namespace SortedTable

variable {α : Type}

/-- The table without entries. -/
def empty : SortedTable α := ⟨[], List.Pairwise.nil⟩

instance : Inhabited (SortedTable α) := ⟨empty⟩

/-- The keys in ascending order. -/
def keys (table : SortedTable α) : List String := table.entries.map Prod.fst

/-- The values in the order of their keys. -/
def values (table : SortedTable α) : List α := table.entries.map Prod.snd

/-- The number of keys. -/
def size (table : SortedTable α) : Nat := table.entries.length

/-- The value at a key. -/
def find? (table : SortedTable α) (key : String) : Option α := table.entries.lookup key

/-- Whether a key is present. -/
def contains (table : SortedTable α) (key : String) : Bool := (table.find? key).isSome

/-- The table with a value at a key. -/
def insert (table : SortedTable α) (key : String) (value : α) : SortedTable α where
  entries := putSorted key value table.entries
  sorted := table.sorted.putSorted key value

/-- The table of a list of entries; of two entries at one key the later one counts. -/
def ofList (entries : List (String × α)) : SortedTable α :=
  entries.foldl (fun table entry => table.insert entry.1 entry.2) empty

theorem ext {a b : SortedTable α} (h : a.entries = b.entries) : a = b := by
  cases a
  cases b
  cases h
  rfl

instance [DecidableEq α] : DecidableEq (SortedTable α) := fun a b =>
  if h : a.entries = b.entries then isTrue (ext h) else isFalse fun e => h (e ▸ rfl)

end SortedTable

end BundleBuilder.Table
