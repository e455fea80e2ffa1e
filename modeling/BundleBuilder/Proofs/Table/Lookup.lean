import BundleBuilder.Table.Insertion
import BundleBuilder.Table.Sorted

/-!
# Lookups and insertions

What an insertion does to a table, in the two views that statements about tables use: the value at
every key, and the list of entries. A new key adds one entry, a key that is present changes one.
-/

set_option autoImplicit false

namespace BundleBuilder.Table

variable {α β : Type}

theorem lookup_cons_eq_ite (entry : String × α) (rest : List (String × α)) (key : String) :
    (entry :: rest).lookup key = if key = entry.1 then some entry.2 else rest.lookup key := by
  obtain ⟨k, v⟩ := entry
  rw [List.lookup_cons]
  by_cases h : key = k
  · simp [h]
  · have hbeq : (key == k) = false := by simpa using h
    simp [h, hbeq]

/-- In a list of entries with distinct keys, the value found at a key is the value of its entry. -/
theorem mem_iff_lookup {entries : List (String × α)} (hnodup : (entries.map Prod.fst).Nodup)
    (key : String) (value : α) : (key, value) ∈ entries ↔ entries.lookup key = some value := by
  induction entries with
  | nil => simp
  | cons entry rest ih =>
    obtain ⟨k, v⟩ := entry
    simp only [List.map_cons, List.nodup_cons] at hnodup
    rw [lookup_cons_eq_ite, List.mem_cons]
    by_cases h : key = k
    · subst h
      rw [if_pos rfl]
      constructor
      · rintro (heq | hmem)
        · rw [(Prod.mk.inj heq).2]
        · exact absurd (List.mem_map_of_mem (f := Prod.fst) hmem) hnodup.1
      · intro heq
        exact .inl (congrArg (Prod.mk key) (Option.some.inj heq).symm)
    · rw [if_neg h]
      constructor
      · rintro (heq | hmem)
        · exact absurd (Prod.mk.inj heq).1 h
        · exact (ih hnodup.2).1 hmem
      · exact fun heq => .inr ((ih hnodup.2).2 heq)

/-! ## Tables in insertion order -/

theorem lookup_putEntry (key : String) (value : α) (entries : List (String × α)) (other : String) :
    (putEntry key value entries).lookup other
      = if other = key then some value else entries.lookup other := by
  induction entries with
  | nil => rw [putEntry, lookup_cons_eq_ite, List.lookup_nil]
  | cons entry rest ih =>
    rw [putEntry]
    split
    · next h =>
      rw [lookup_cons_eq_ite, lookup_cons_eq_ite, h]
      by_cases ho : other = key <;> simp [ho]
    · next h =>
      rw [lookup_cons_eq_ite, lookup_cons_eq_ite, ih]
      by_cases ho : other = key
      · have hne : ¬ key = entry.1 := fun e => h e.symm
        simp [ho, hne]
      · simp [ho]

theorem putEntry_of_lookup_none {key : String} (value : α) {entries : List (String × α)}
    (h : entries.lookup key = none) : putEntry key value entries = entries ++ [(key, value)] := by
  induction entries with
  | nil => rfl
  | cons entry rest ih =>
    rw [lookup_cons_eq_ite] at h
    split at h
    · cases h
    · next hne =>
      have hne' : ¬ entry.1 = key := fun e => hne e.symm
      rw [putEntry, if_neg hne', ih h, List.cons_append]

theorem putEntry_of_lookup_some {key : String} {value : α} {entries : List (String × α)}
    (h : entries.lookup key = some value) : putEntry key value entries = entries := by
  induction entries with
  | nil => simp at h
  | cons entry rest ih =>
    rw [lookup_cons_eq_ite] at h
    rw [putEntry]
    split at h
    · next heq => rw [if_pos heq.symm, heq, ← Option.some.inj h]
    · next hne => rw [if_neg fun e => hne e.symm, ih h]

namespace InsertionTable

@[simp] theorem find?_empty (key : String) : (empty : InsertionTable α).find? key = none := rfl

theorem find?_eq_none_iff (table : InsertionTable α) (key : String) :
    table.find? key = none ↔ key ∉ table.keys := by
  simp only [find?, keys, List.lookup_eq_none_iff, List.mem_map, not_exists, not_and]
  constructor
  · intro hnone entry hentry heq
    have hne := hnone entry hentry
    rw [heq, bne_self_eq_false] at hne
    cases hne
  · intro hnone entry hentry
    exact bne_iff_ne.2 fun heq => hnone entry hentry heq.symm

theorem find?_insert (table : InsertionTable α) (key : String) (value : α) (other : String) :
    (table.insert key value).find? other
      = if other = key then some value else table.find? other :=
  lookup_putEntry key value table.entries other

theorem keys_insert (table : InsertionTable α) (key : String) (value : α) :
    (table.insert key value).keys
      = if key ∈ table.keys then table.keys else table.keys ++ [key] :=
  keys_putEntry key value table.entries

theorem mem_entries_iff (table : InsertionTable α) (key : String) (value : α) :
    (key, value) ∈ table.entries ↔ table.find? key = some value :=
  mem_iff_lookup table.keys_nodup key value

theorem entries_insert_of_find?_none {table : InsertionTable α} {key : String} (value : α)
    (h : table.find? key = none) :
    (table.insert key value).entries = table.entries ++ [(key, value)] :=
  putEntry_of_lookup_none value h

theorem insert_of_find?_some {table : InsertionTable α} {key : String} {value : α}
    (h : table.find? key = some value) : table.insert key value = table :=
  ext (putEntry_of_lookup_some h)

end InsertionTable

/-! ## Sorted tables -/

theorem StrictlySorted.keys_nodup {entries : List (String × α)} (h : StrictlySorted entries) :
    (entries.map Prod.fst).Nodup := by
  rw [List.Nodup, List.pairwise_map]
  apply h.imp
  intro a b hlt heq
  rw [heq] at hlt
  exact String.lt_irrefl b.1 hlt

/-- The order of strictly sorted entries is determined by what they are. -/
theorem StrictlySorted.eq_of_perm {first second : List (String × α)} (hfirst : StrictlySorted first)
    (hsecond : StrictlySorted second) (h : first.Perm second) : first = second := by
  apply h.eq_of_pairwise ?_ hfirst hsecond
  intro a b _ _ hlt hgt
  exact absurd (String.lt_trans hlt hgt) (String.lt_irrefl a.1)

theorem StrictlySorted.lookup_eq_none {entry : String × α} {rest : List (String × α)}
    (h : StrictlySorted (entry :: rest)) {key : String} (hlt : key < entry.1) :
    rest.lookup key = none := by
  rw [List.lookup_eq_none_iff]
  intro other hother
  have hnext : entry.1 < other.1 := (List.pairwise_cons.1 h).1 other hother
  rw [bne_iff_ne]
  intro heq
  rw [heq] at hlt
  exact String.lt_irrefl entry.1 (String.lt_trans hnext hlt)

theorem lookup_putSorted (key : String) (value : α) (entries : List (String × α))
    (other : String) :
    (putSorted key value entries).lookup other
      = if other = key then some value else entries.lookup other := by
  induction entries with
  | nil => rw [putSorted, lookup_cons_eq_ite, List.lookup_nil]
  | cons entry rest ih =>
    rw [putSorted]
    split
    · rw [lookup_cons_eq_ite]
    · next hlt =>
      split
      · next heq =>
        rw [lookup_cons_eq_ite, lookup_cons_eq_ite, ← heq]
        by_cases ho : other = key <;> simp [ho]
      · next hne =>
        rw [lookup_cons_eq_ite, lookup_cons_eq_ite, ih]
        by_cases ho : other = key
        · simp [ho, hne]
        · simp [ho]

/-- A key that is new adds one entry. -/
theorem putSorted_perm_of_lookup_none {key : String} (value : α) {entries : List (String × α)}
    (h : entries.lookup key = none) : (putSorted key value entries).Perm ((key, value) :: entries) := by
  induction entries with
  | nil => exact .refl _
  | cons entry rest ih =>
    rw [lookup_cons_eq_ite] at h
    split at h
    · cases h
    · next hne =>
      rw [putSorted]
      split
      · exact .refl _
      · exact ((ih h).cons entry).trans (.swap (key, value) entry rest)

/-- A key that is present keeps its place: seen through a view in which the new value does not differ
from the old one, nothing changes. -/
theorem map_putSorted_of_lookup_some (view : α → β) {key : String} {value old : α}
    {entries : List (String × α)} (hsorted : StrictlySorted entries)
    (h : entries.lookup key = some old) (hview : view value = view old) :
    (putSorted key value entries).map (fun entry => (entry.1, view entry.2))
      = entries.map fun entry => (entry.1, view entry.2) := by
  induction entries with
  | nil => simp at h
  | cons entry rest ih =>
    rw [lookup_cons_eq_ite] at h
    rw [putSorted]
    split at h
    · next heq =>
      have hlt : ¬ key < entry.1 := heq ▸ String.lt_irrefl key
      rw [if_neg hlt, if_pos heq, List.map_cons, List.map_cons, hview, ← Option.some.inj h, heq]
    · next hne =>
      have hlt : ¬ key < entry.1 := by
        intro hlt
        rw [hsorted.lookup_eq_none hlt] at h
        cases h
      rw [if_neg hlt, if_neg hne, List.map_cons, List.map_cons,
        ih (List.pairwise_cons.1 hsorted).2 h]

namespace SortedTable

@[simp] theorem find?_empty (key : String) : (empty : SortedTable α).find? key = none := rfl

theorem find?_insert (table : SortedTable α) (key : String) (value : α) (other : String) :
    (table.insert key value).find? other
      = if other = key then some value else table.find? other :=
  lookup_putSorted key value table.entries other

theorem mem_entries_iff (table : SortedTable α) (key : String) (value : α) :
    (key, value) ∈ table.entries ↔ table.find? key = some value :=
  mem_iff_lookup table.sorted.keys_nodup key value

theorem mem_values_iff (table : SortedTable α) (value : α) :
    value ∈ table.values ↔ ∃ key, table.find? key = some value := by
  rw [values]
  rw [List.mem_map]
  constructor
  · rintro ⟨⟨key, other⟩, hmem, rfl⟩
    exact ⟨key, (table.mem_entries_iff key other).1 hmem⟩
  · rintro ⟨key, hfind⟩
    exact ⟨(key, value), (table.mem_entries_iff key value).2 hfind, rfl⟩

theorem values_insert_perm {table : SortedTable α} {key : String} (value : α)
    (h : table.find? key = none) : (table.insert key value).values.Perm (value :: table.values) :=
  (putSorted_perm_of_lookup_none value h).map Prod.snd

theorem map_entries_insert (view : α → β) {table : SortedTable α} {key : String} {value old : α}
    (h : table.find? key = some old) (hview : view value = view old) :
    (table.insert key value).entries.map (fun entry => (entry.1, view entry.2))
      = table.entries.map fun entry => (entry.1, view entry.2) :=
  map_putSorted_of_lookup_some view table.sorted h hview

theorem map_values_insert (view : α → β) {table : SortedTable α} {key : String} {value old : α}
    (h : table.find? key = some old) (hview : view value = view old) :
    (table.insert key value).values.map view = table.values.map view := by
  have hentries := congrArg (List.map Prod.snd) (map_entries_insert view h hview)
  simpa only [values, List.map_map, Function.comp_def] using hentries

end SortedTable

end BundleBuilder.Table
