/-!
# Tables in insertion order

A table maps each key to one value and lists its keys in the order in which they were first
inserted. Inserting a key that is present replaces its value and keeps its place. The bundle keys,
codec variables and setters of a controller, and the classes of a model, are tables of this kind.
-/

set_option autoImplicit false

namespace BundleBuilder.Table

/-- Puts a value at its key: in place if the key is present, at the end otherwise. -/
def putEntry {α : Type} (key : String) (value : α) : List (String × α) → List (String × α)
  | [] => [(key, value)]
  | entry :: rest =>
    if entry.1 = key then (key, value) :: rest else entry :: putEntry key value rest

theorem keys_putEntry {α : Type} (key : String) (value : α) (entries : List (String × α)) :
    (putEntry key value entries).map Prod.fst =
      if key ∈ entries.map Prod.fst then entries.map Prod.fst
      else entries.map Prod.fst ++ [key] := by
  induction entries with
  | nil => simp [putEntry]
  | cons entry rest ih =>
    by_cases h : entry.1 = key
    · simp [putEntry, h]
    · have h' : ¬ key = entry.1 := fun e => h e.symm
      simp only [putEntry, h, if_false, List.map_cons, ih, List.mem_cons, h', false_or]
      split <;> simp

/-- A finite map whose keys keep the order of their first insertion. -/
structure InsertionTable (α : Type) where
  entries : List (String × α)
  keys_nodup : (entries.map Prod.fst).Nodup

namespace InsertionTable

variable {α : Type}

/-- The table without entries. -/
def empty : InsertionTable α := ⟨[], List.nodup_nil⟩

instance : Inhabited (InsertionTable α) := ⟨empty⟩

/-- The keys, in the order of their first insertion. -/
def keys (table : InsertionTable α) : List String := table.entries.map Prod.fst

/-- The values, in the order of their keys. -/
def values (table : InsertionTable α) : List α := table.entries.map Prod.snd

/-- The number of keys. -/
def size (table : InsertionTable α) : Nat := table.entries.length

/-- The value at a key. -/
def find? (table : InsertionTable α) (key : String) : Option α := table.entries.lookup key

/-- Whether a key is present. -/
def contains (table : InsertionTable α) (key : String) : Bool := (table.find? key).isSome

/-- The table with a value at a key; a key that is present keeps its place. -/
def insert (table : InsertionTable α) (key : String) (value : α) : InsertionTable α where
  entries := putEntry key value table.entries
  keys_nodup := by
    rw [keys_putEntry]
    split
    · exact table.keys_nodup
    · next h =>
      rw [List.nodup_append]
      refine ⟨table.keys_nodup, by simp, ?_⟩
      intro a ha b hb hab
      rw [List.mem_singleton.1 hb] at hab
      exact h (hab ▸ ha)

theorem ext {a b : InsertionTable α} (h : a.entries = b.entries) : a = b := by
  cases a
  cases b
  cases h
  rfl

/-- A key that is found is one of the keys. -/
theorem mem_keys_of_find? {table : InsertionTable α} {key : String} {value : α}
    (h : table.find? key = some value) : key ∈ table.keys := by
  unfold find? at h
  unfold keys
  generalize table.entries = entries at h ⊢
  induction entries with
  | nil => simp at h
  | cons entry rest ih =>
    obtain ⟨k, v⟩ := entry
    by_cases hk : key = k
    · simp [hk]
    · have hbeq : (key == k) = false := by simpa using hk
      rw [List.lookup_cons, hbeq] at h
      exact List.mem_cons_of_mem _ (ih h)

end InsertionTable

end BundleBuilder.Table
