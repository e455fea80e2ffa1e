import BundleBuilder.Proofs.ClassTable.Agreement

/-!
# Inserting listed classes again

Inserting classes into a table replaces the classes of their names in place and puts the others at the
end. A table is determined by the order of its names and by what it finds under them. So the inserted
classes may be taken from the resulting table, in the order in which it lists them, and inserted into
the first table again: the result is the same table (`insertAll_listed`).
-/

set_option autoImplicit false

namespace BundleBuilder

open Table

/-- A table is determined by its keys and by what it finds. -/
theorem Table.InsertionTable.eq_of_find? {α : Type} {first second : InsertionTable α}
    (hkeys : first.keys = second.keys) (hfind : ∀ key, first.find? key = second.find? key) :
    first = second := by
  apply InsertionTable.ext
  have hlength : first.entries.length = second.entries.length := by
    simpa [InsertionTable.keys] using congrArg List.length hkeys
  apply List.ext_getElem hlength
  intro index hfirst hsecond
  have hkey : first.entries[index].1 = second.entries[index].1 := by
    have hget := List.getElem_of_eq hkeys (by simpa [InsertionTable.keys] using hfirst)
    simpa [InsertionTable.keys] using hget
  have hvalue := (first.mem_entries_iff first.entries[index].1 first.entries[index].2).1
    (List.getElem_mem hfirst)
  have hother := (second.mem_entries_iff second.entries[index].1 second.entries[index].2).1
    (List.getElem_mem hsecond)
  rw [hfind, hkey, hother] at hvalue
  exact Prod.ext hkey (Option.some.inj hvalue).symm

namespace ClassTable

variable {decls : List ClassDecl}

theorem eq_of_agree {first second : ClassTable} (hnames : first.names = second.names)
    (h : Agree first second) : first = second := by
  cases first
  cases second
  obtain rfl := InsertionTable.eq_of_find? hnames h
  rfl

theorem map_name_classes (table : ClassTable) : table.classes.map ClassDecl.name = table.names := by
  rw [classes, InsertionTable.values, List.map_map]
  exact List.map_congr_left table.named

theorem names_insert (table : ClassTable) (decl : ClassDecl) :
    (table.insert decl).names
      = if decl.name ∈ table.names then table.names else table.names ++ [decl.name] :=
  table.byName.keys_insert decl.name decl

/-- Classes of new names are listed at the end, in the order in which they were inserted. -/
theorem names_insertAll (hnodup : (decls.map ClassDecl.name).Nodup) : ∀ table : ClassTable,
    (table.insertAll decls).names
      = table.names ++ (decls.map ClassDecl.name).filter fun name => name ∉ table.names := by
  induction decls with
  | nil =>
    intro table
    simp [insertAll]
  | cons decl decls ih =>
    intro table
    rw [List.map_cons, List.nodup_cons] at hnodup
    have hinsert : table.insertAll (decl :: decls) = (table.insert decl).insertAll decls := rfl
    rw [hinsert, ih hnodup.2, names_insert]
    by_cases hmem : decl.name ∈ table.names
    · simp [hmem]
    · have hothers : ∀ name ∈ decls.map ClassDecl.name,
          (decide (name ∉ table.names ++ [decl.name])) = decide (name ∉ table.names) := by
        intro name hname
        have hne : name ≠ decl.name := fun heq => hnodup.1 (heq ▸ hname)
        simp [hne]
      rw [if_neg hmem, List.filter_congr hothers]
      simp [hmem]

/-- Inserting classes changes nothing under other names. -/
theorem find?_insertAll_of_not_mem {name : String} (h : name ∉ decls.map ClassDecl.name) :
    ∀ table : ClassTable, (table.insertAll decls).find? name = table.find? name := by
  induction decls with
  | nil =>
    intro table
    rfl
  | cons decl decls ih =>
    intro table
    rw [List.map_cons, List.mem_cons, not_or] at h
    have hinsert : (table.insert decl).find? name = table.find? name := by
      rw [find?, insert, InsertionTable.find?_insert, if_neg h.1]
      rfl
    exact (ih h.2 (table.insert decl)).trans hinsert

/-- A class is found after the insertion if no other inserted class has its name. -/
theorem find?_insertAll_of_mem (hnodup : (decls.map ClassDecl.name).Nodup) {decl : ClassDecl}
    (hmem : decl ∈ decls) : ∀ table : ClassTable,
      (table.insertAll decls).find? decl.name = some decl := by
  induction decls with
  | nil => cases hmem
  | cons first decls ih =>
    intro table
    rw [List.map_cons, List.nodup_cons] at hnodup
    rcases List.mem_cons.1 hmem with rfl | hmem
    · refine (find?_insertAll_of_not_mem hnodup.1 (table.insert decl)).trans ?_
      rw [find?, insert, InsertionTable.find?_insert, if_pos rfl]
    · exact ih hnodup.2 hmem (table.insert first)

/-- The classes that a table lists under the names of other classes, in the order of the table. -/
def listed (table : ClassTable) (decls : List ClassDecl) : List ClassDecl :=
  table.classes.filter fun decl => decl.name ∈ decls.map ClassDecl.name

/-- After an insertion, what is listed under the names of the inserted classes are these classes. -/
theorem listed_perm (hnodup : (decls.map ClassDecl.name).Nodup) (table : ClassTable) :
    ((table.insertAll decls).listed decls).Perm decls := by
  have hclasses : (table.insertAll decls).classes.Nodup := by
    apply List.Nodup.of_map ClassDecl.name
    rw [map_name_classes]
    exact (table.insertAll decls).byName.keys_nodup
  rw [listed, List.perm_ext_iff_of_nodup (hclasses.filter _) (.of_map ClassDecl.name hnodup)]
  intro decl
  rw [List.mem_filter, mem_classes_iff, decide_eq_true_eq]
  constructor
  · rintro ⟨hfind, hname⟩
    obtain ⟨other, hother, heq⟩ := List.mem_map.1 hname
    rw [← heq, find?_insertAll_of_mem hnodup hother] at hfind
    rwa [← Option.some.inj hfind]
  · intro hmem
    exact ⟨find?_insertAll_of_mem hnodup hmem table, List.mem_map_of_mem hmem⟩

/-- The inserted classes may be inserted in the order in which the table lists them. -/
theorem insertAll_listed (hnodup : (decls.map ClassDecl.name).Nodup) (table : ClassTable) :
    table.insertAll ((table.insertAll decls).listed decls) = table.insertAll decls := by
  have hperm := listed_perm hnodup table
  have hlisted := (hperm.map ClassDecl.name).nodup_iff.2 hnodup
  have hnames : ((table.insertAll decls).listed decls).map ClassDecl.name
      = (table.insertAll decls).names.filter fun name => name ∈ decls.map ClassDecl.name := by
    rw [← map_name_classes, List.filter_map]
    rfl
  apply eq_of_agree ?_ (Agree.insertAll_perm hperm (.refl table) hlisted)
  rw [names_insertAll hlisted, hnames, names_insertAll hnodup, List.filter_append, List.filter_append,
    List.filter_filter, List.filter_filter, List.filter_filter]
  have hold : (table.names.filter fun name =>
      decide (name ∉ table.names) && decide (name ∈ decls.map ClassDecl.name)) = [] := by
    simp +contextual
  rw [hold, List.nil_append]
  congr 1
  apply List.filter_congr
  intro name hname
  simp [hname]

end ClassTable

end BundleBuilder
