import BundleBuilder.Proofs.Catalog.Invariants
import BundleBuilder.Proofs.Catalog.Reordering
import BundleBuilder.Proofs.ClassDecl.Types

/-!
# Catalogs that models were loaded into

A catalog grows by loading texts and files into it, one after the other; what was loaded before an
error stays in it. Whatever was loaded, each class in the catalog was declared by a model that was read,
is named well and stands under its own name (`Gathered.isFiled`).
-/

set_option autoImplicit false

namespace BundleBuilder

open Table Files

/-- A class is declared by a model that is read from some text. -/
def ClassDecl.IsRead (decl : ClassDecl) : Prop :=
  ∃ contents model, ModelFile.read contents = .ok model ∧ decl ∈ model.classes

theorem ClassDecl.IsRead.isPrintable {decl : ClassDecl} (h : decl.IsRead) :
    ∀ type ∈ decl.types, type.IsPrintable := by
  obtain ⟨contents, model, hread, hmem⟩ := h
  exact ModelFile.isPrintable_of_read hread decl hmem

namespace ClassTable

/-- A class of a table into which classes were inserted was in the table or is one of them. -/
theorem mem_classes_insertAll {decls : List ClassDecl} : ∀ {table : ClassTable} {decl : ClassDecl},
    decl ∈ (table.insertAll decls).classes → decl ∈ table.classes ∨ decl ∈ decls := by
  induction decls with
  | nil => exact .inl
  | cons first decls ih =>
    intro table decl hdecl
    rcases ih hdecl with hinserted | hlater
    · obtain ⟨entry, hentry, rfl⟩ := List.mem_map.1 hinserted
      rcases mem_putEntry hentry with rfl | hold
      · exact .inr List.mem_cons_self
      · exact .inl (List.mem_map_of_mem hold)
    · exact .inr (List.mem_cons_of_mem _ hlater)

/-- No built-in class states its package. -/
theorem package?_builtin {platform : Platform} {decl : ClassDecl}
    (h : decl ∈ builtinClasses platform) : decl.package? = none := by
  have hfixed : (languageClasses platform ++ boxedNumbers ++ boxedOthers platform
      ++ collectionClasses platform ++ storageClasses platform).all
        (fun decl => decl.package?.isNone) = true := rfl
  have hsupport : supportAnnotations.all (fun decl => decl.package?.isNone) = true := rfl
  rcases List.mem_append.1 h with hfront | hback
  · rcases List.mem_append.1 hfront with hfront | hbase
    · exact Option.isNone_iff_eq_none.1 (List.all_eq_true.1 hfixed decl hfront)
    · obtain ⟨base, -, rfl⟩ := List.mem_map.1 hbase
      rfl
  · exact Option.isNone_iff_eq_none.1 (List.all_eq_true.1 hsupport decl hback)

end ClassTable

namespace Catalog

/-- The catalogs that result from loading texts and files, from libraries that may change in between,
with or without errors. -/
inductive Gathered : Catalog → Prop where
  | fresh : Gathered {}
  | text {catalog : Catalog} (before : Gathered catalog) (library : Library)
      (contents path : String) : Gathered (loadText library catalog contents path).1
  | file {catalog : Catalog} (before : Gathered catalog) (library : Library) (path : String) :
      Gathered (loadFile library catalog path).1

/-- An entry of a catalog is as loading leaves it. -/
structure IsFiled (entry : String × LoadedClass) : Prop where
  name_eq : entry.2.decl.name = entry.1
  wellNamed : entry.2.decl.IsWellNamed
  isRead : entry.2.decl.IsRead

/-- All entries of a catalog are as loading leaves them. -/
def AreFiled (catalog : Catalog) : Prop := ∀ entry ∈ catalog.classes.entries, IsFiled entry

theorem AreFiled.add {catalog next : Catalog} {decl : ClassDecl} {origin : String}
    (h : AreFiled catalog) (hread : decl.IsRead) (hadd : catalog.add decl origin = .ok next) :
    AreFiled next := by
  obtain ⟨hname, -, -, hentries⟩ := (add_eq_ok_iff _ _ _ _).1 hadd
  rw [AreFiled, hentries]
  refine List.forall_mem_append.2 ⟨h, ?_⟩
  simpa [entriesFrom] using ⟨rfl, hname, hread⟩

/-- Carrying out tasks whose classes were read leaves the catalog as it should be. -/
theorem AreFiled.run {catalog : Catalog} (files : FileSystem) (includes : List String)
    (tasks : List Task) (h : AreFiled catalog)
    (hread : ∀ decls origin, Task.declare decls origin ∈ tasks → ∀ decl ∈ decls, decl.IsRead) :
    AreFiled (run files includes catalog tasks).1 := by
  apply run_preserves AreFiled fun decl _ => decl.IsRead
  · intro current next decl origin hdecl hok hfiled
    exact hfiled.add hdecl hok
  · intro current path canonical _ _ hfiled
    exact hfiled
  · rintro current canonical model - - ⟨contents, -, hmodel⟩ decl hdecl
    exact ⟨contents, model, hmodel, hdecl⟩
  · exact hread
  · exact h

/-- In every catalog that models were loaded into, each class was read, is named well and stands under
its own name. -/
theorem Gathered.isFiled {catalog : Catalog} (h : Gathered catalog) : AreFiled catalog := by
  induction h with
  | fresh => exact fun entry hentry => absurd hentry List.not_mem_nil
  | text before library contents path ih =>
    rw [loadText]
    split
    · exact ih
    · next model hread =>
      refine ih.run _ _ _ fun decls origin hmem decl hdecl => ?_
      obtain ⟨rfl, rfl⟩ : decls = model.classes ∧ origin = path := by
        simpa [tasksOf] using hmem
      exact ⟨contents, model, hread, hdecl⟩
  | file before library path ih =>
    exact ih.run _ _ _ (by simp)

/-- The classes of a catalog as they were declared, in their order. -/
def declarations (catalog : Catalog) : List ClassDecl :=
  catalog.classes.values.map LoadedClass.decl

namespace Gathered

variable {catalog : Catalog} {decl : ClassDecl} (h : Gathered catalog)

include h

/-- A catalog that models were loaded into holds its classes under their names. -/
theorem holds : Holds catalog catalog.declarations := by
  rw [Holds, declarations, InsertionTable.values, List.map_map, List.map_map]
  refine List.map_congr_left fun entry hentry => ?_
  rw [Function.comp_apply, Function.comp_apply, (h.isFiled entry hentry).name_eq]

theorem isFiled_of_mem (hdecl : decl ∈ catalog.declarations) : decl.IsWellNamed ∧ decl.IsRead := by
  obtain ⟨loaded, hloaded, rfl⟩ := List.mem_map.1 hdecl
  obtain ⟨entry, hentry, rfl⟩ := List.mem_map.1 hloaded
  exact ⟨(h.isFiled entry hentry).wellNamed, (h.isFiled entry hentry).isRead⟩

/-- A class that was loaded is named well. -/
theorem wellNamed (hdecl : decl ∈ catalog.declarations) : decl.IsWellNamed :=
  (h.isFiled_of_mem hdecl).1

/-- All types of a class that was loaded can be printed. -/
theorem isPrintable (hdecl : decl ∈ catalog.declarations) : ∀ type ∈ decl.types, type.IsPrintable :=
  (h.isFiled_of_mem hdecl).2.isPrintable

/-- Every class in a table with the loaded classes lies in its package, if it has a name. -/
theorem wellNamed_of_mem_toTable (platform : Platform)
    (hdecl : decl ∈ (catalog.toTable platform).classes) (hname : decl.name ≠ "") :
    decl.IsWellNamed := by
  refine ⟨hname, fun package hpackage => ?_⟩
  rcases ClassTable.mem_classes_insertAll hdecl with hbuiltin | hloaded
  · rcases ClassTable.mem_classes_insertAll hbuiltin with hempty | hbuiltin
    · cases hempty
    · rw [ClassTable.package?_builtin hbuiltin] at hpackage
      cases hpackage
  · obtain ⟨loaded, hmem, rfl⟩ := List.mem_map.1 hloaded
    -- Names in types are resolved, which changes neither the name nor the package.
    exact (h.wellNamed (List.mem_map_of_mem hmem)).2 package hpackage

end Gathered

end Catalog

end BundleBuilder
