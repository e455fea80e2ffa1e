import BundleBuilder.Catalog
import BundleBuilder.Proofs.Table.Lookup

/-!
# Adding classes to a catalog

Classes are added to a catalog if they are named well and no name is taken, neither in the catalog nor
by a class before. They then stand behind the classes that were there, in their order and under their
names (`addAll_eq_none_iff`).
-/

set_option autoImplicit false

namespace BundleBuilder

open Table

/-- A class is named well if it has a name, and lies in its package: the package is the default package
or stands in front of a dot in the name. -/
def ClassDecl.IsWellNamed (decl : ClassDecl) : Prop :=
  decl.name ≠ "" ∧ ∀ package, decl.package? = some package →
    package = "" ∨ ∃ rest, decl.name = package ++ "." ++ rest

namespace Catalog

theorem ext {first second : Catalog} (hfiles : first.files = second.files)
    (hentries : first.classes.entries = second.classes.entries) : first = second := by
  cases first
  cases second
  obtain rfl := InsertionTable.ext hentries
  cases hfiles
  rfl

/-- The entries that a catalog has for the classes of a file. -/
def entriesFrom (origin : String) (decls : List ClassDecl) : List (String × LoadedClass) :=
  decls.map fun decl => (decl.name, ⟨decl, origin⟩)

theorem keys_entriesFrom (origin : String) (decls : List ClassDecl) :
    (entriesFrom origin decls).map Prod.fst = decls.map ClassDecl.name := by
  rw [entriesFrom, List.map_map]
  rfl

theorem keys_of_entries {catalog next : Catalog} {origin : String} {decls : List ClassDecl}
    (h : next.classes.entries = catalog.classes.entries ++ entriesFrom origin decls) :
    next.classes.keys = catalog.classes.keys ++ decls.map ClassDecl.name := by
  rw [InsertionTable.keys, h, List.map_append, keys_entriesFrom]
  rfl

/-- A catalog has room for classes under new names. -/
theorem exists_extended {catalog : Catalog} (origin : String) (decls : List ClassDecl)
    (h : (catalog.classes.keys ++ decls.map ClassDecl.name).Nodup) :
    ∃ next : Catalog, next.files = catalog.files ∧
      next.classes.entries = catalog.classes.entries ++ entriesFrom origin decls := by
  have hnodup : ((catalog.classes.entries ++ entriesFrom origin decls).map Prod.fst).Nodup := by
    rw [List.map_append, keys_entriesFrom]
    exact h
  exact ⟨{ classes := ⟨_, hnodup⟩, files := catalog.files }, rfl, rfl⟩

theorem nameError?_eq_none_iff (decl : ClassDecl) (origin : String) :
    nameError? decl origin = none ↔ decl.IsWellNamed := by
  unfold nameError? ClassDecl.IsWellNamed
  split
  · next hempty => simp [hempty]
  · next hname =>
    cases hpackage : decl.package? with
    | none => simp [hname]
    | some package =>
      by_cases hdefault : package = "" <;>
        simp [hname, hdefault, Text.hasPrefix_iff]

/-- A class is added if it is named well and its name is new; it then stands at the end. -/
theorem add_eq_ok_iff (catalog : Catalog) (decl : ClassDecl) (origin : String) (next : Catalog) :
    catalog.add decl origin = .ok next ↔
      decl.IsWellNamed ∧ decl.name ∉ catalog.classes.keys ∧
        next.files = catalog.files ∧
          next.classes.entries = catalog.classes.entries ++ entriesFrom origin [decl] := by
  rw [← nameError?_eq_none_iff decl origin]
  unfold add
  cases hname : nameError? decl origin with
  | some error => simp
  | none =>
    cases hfind : catalog.classes.find? decl.name with
    | some existing => simp [InsertionTable.mem_keys_of_find? hfind]
    | none =>
      have hentries := InsertionTable.entries_insert_of_find?_none ⟨decl, origin⟩ hfind
      have hnew := (catalog.classes.find?_eq_none_iff decl.name).1 hfind
      simp only [Except.ok.injEq, hnew, not_false_eq_true, true_and]
      constructor
      · rintro rfl
        exact ⟨rfl, hentries⟩
      · rintro ⟨hfiles, hsame⟩
        exact ext hfiles.symm (hentries.trans hsame.symm)

/-- Classes are added if all of them are named well and no name is taken; they then stand at the end in
their order. -/
theorem addAll_eq_none_iff (origin : String) (decls : List ClassDecl) :
    ∀ catalog next : Catalog, catalog.addAll origin decls = (next, none) ↔
      (∀ decl ∈ decls, decl.IsWellNamed) ∧
        (catalog.classes.keys ++ decls.map ClassDecl.name).Nodup ∧
          next.files = catalog.files ∧
            next.classes.entries = catalog.classes.entries ++ entriesFrom origin decls := by
  induction decls with
  | nil =>
    intro catalog next
    have hkeys : catalog.classes.keys.Nodup := catalog.classes.keys_nodup
    simp only [addAll, entriesFrom, List.map_nil, List.append_nil, hkeys, true_and,
      List.not_mem_nil, false_implies, implies_true, Prod.mk.injEq, and_true]
    constructor
    · rintro rfl
      exact ⟨rfl, rfl⟩
    · rintro ⟨hfiles, hentries⟩
      exact ext hfiles.symm hentries.symm
  | cons decl decls ih =>
    intro catalog next
    have hsplit : catalog.addAll origin (decl :: decls) = (next, none) ↔
        ∃ middle, catalog.add decl origin = .ok middle ∧
          middle.addAll origin decls = (next, none) := by
      rw [addAll]
      cases catalog.add decl origin <;> simp
    rw [hsplit]
    constructor
    · rintro ⟨middle, hadd, hrest⟩
      obtain ⟨hname, hnew, hfiles, hentries⟩ := (add_eq_ok_iff _ _ _ _).1 hadd
      obtain ⟨hnames, hnodup, hfilesRest, hentriesRest⟩ := (ih middle next).1 hrest
      have hkeys := keys_of_entries hentries
      refine ⟨List.forall_mem_cons.2 ⟨hname, hnames⟩, ?_, hfilesRest.trans hfiles, ?_⟩
      · rw [hkeys, List.append_assoc] at hnodup
        exact hnodup
      · rw [hentriesRest, hentries, List.append_assoc]
        rfl
    · rintro ⟨hnames, hnodup, hfiles, hentries⟩
      obtain ⟨hname, hrest⟩ := List.forall_mem_cons.1 hnames
      have hsingle : (catalog.classes.keys ++ [decl.name] ++ decls.map ClassDecl.name).Nodup := by
        rw [List.append_assoc]
        exact hnodup
      have hnew : decl.name ∉ catalog.classes.keys := by
        intro hmem
        have hdistinct := (List.nodup_append.1 (List.nodup_append.1 hsingle).1).2.2
        exact hdistinct decl.name hmem decl.name List.mem_cons_self rfl
      obtain ⟨middle, hfilesMiddle, hentriesMiddle⟩ :=
        exists_extended origin [decl] (List.nodup_append.1 hsingle).1
      have hkeys := keys_of_entries hentriesMiddle
      have hadd := (add_eq_ok_iff _ _ _ _).2 ⟨hname, hnew, hfilesMiddle, hentriesMiddle⟩
      refine ⟨middle, hadd, (ih middle next).2 ⟨hrest, ?_, hfiles.trans hfilesMiddle.symm, ?_⟩⟩
      · rw [hkeys]
        exact hsingle
      · rw [hentries, hentriesMiddle, List.append_assoc]
        rfl

end Catalog

end BundleBuilder
