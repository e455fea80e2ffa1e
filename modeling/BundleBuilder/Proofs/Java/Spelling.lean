import BundleBuilder.Proofs.Catalog.SimpleNames
import BundleBuilder.Proofs.ClassDecl.Naming
import BundleBuilder.Proofs.Controller.Selection
import BundleBuilder.Java.BuilderScope
import Mathlib.Data.List.Basic

/-!
# How classes are written in a unit

Inside the unit of a builder a class is written by its simple name, by its name relative to the package,
or in full (`form_cases`). Imported classes and top-level classes of the language have the
first form. A class of the package has the second form unless the relative name begins like an import,
so relative names do not come into conflict with imports. They may do so with classes of the language,
and with classes that are written in full; and several simple names may be the same. These are all the
ways in which two classes can be written alike (`name_eq_name_iff`).
-/

set_option autoImplicit false

namespace BundleBuilder

open Table

namespace Text

theorem dropPrefix?_eq_some_iff {start text rest : String} :
    dropPrefix? start text = some rest ↔ text = start ++ rest := by
  rw [dropPrefix?, Option.map_eq_some_iff]
  simp only [List.isPrefixOf?_eq_some_iff_append_eq]
  constructor
  · rintro ⟨chars, happend, rfl⟩
    apply String.toList_inj.1
    rw [String.toList_append, String.toList_ofList, happend]
  · rintro rfl
    exact ⟨rest.toList, String.toList_append.symm, String.ofList_toList⟩

theorem simpleName_of_not_mem {name : String} (h : '.' ∉ name.toList) : simpleName name = name := by
  have hparts := dropLast_append_simpleName name
  rw [segments_of_not_mem h] at hparts
  exact (List.cons.inj hparts).1

/-- A simple name has no dot. -/
theorem not_mem_simpleName (name : String) : '.' ∉ (simpleName name).toList :=
  not_mem_of_mem_split (List.getLast_mem (split_ne_nil '.' name))

/-- The simple name of a top-level class of the language. -/
theorem simpleName_language {simple : String} (h : '.' ∉ simple.toList) :
    simpleName ("java.lang." ++ simple) = simple := by
  have hlast : simpleName ("java.lang" ++ "." ++ simple) = simple := by
    rw [simpleName_append, simpleName_of_not_mem h]
  exact hlast

end Text

namespace Java

/-! ## The three forms -/

section Forms

variable (table : ClassTable) (package : String) (imports : List String)

/-- Imported classes and top-level classes of the language are written by their simple names. -/
def IsWrittenSimply (name : String) : Prop :=
  name ∈ imports ∨ ∃ simple, name = "java.lang." ++ simple ∧ '.' ∉ simple.toList

/-- A class of the package that is written relative to it: no import begins its relative name. -/
structure IsWrittenRelative (relative : String) : Prop where
  package_ne : package ≠ ""
  owned : ∃ decl, table.find? (package ++ "." ++ relative) = some decl ∧ decl.package = package
  not_simply : ¬ IsWrittenSimply imports (package ++ "." ++ relative)
  free : ∀ imported ∈ imports, (Text.segments relative).head? ≠ some (Text.simpleName imported)

/-- A class that is written by neither form of a shorter name. -/
def IsWrittenInFull (name : String) : Prop :=
  ¬ IsWrittenSimply imports name ∧
    ∀ relative, name = package ++ "." ++ relative → ¬ IsWrittenRelative table package imports relative

/-- The ways in which a class is written like another one. -/
inductive IsWrittenLike : (name other : String) → Prop where
  /-- Both are written by their simple names, which are the same. -/
  | simple {name other : String} (hname : IsWrittenSimply imports name)
      (hother : IsWrittenSimply imports other) (hsame : Text.simpleName name = Text.simpleName other) :
      IsWrittenLike name other
  /-- A top-level class of the package is called like one of the language. -/
  | language {simple : String} (hsimple : '.' ∉ simple.toList)
      (hrelative : IsWrittenRelative table package imports simple) :
      IsWrittenLike (package ++ "." ++ simple) ("java.lang." ++ simple)
  /-- The full name of a class is the simple name of one that is written by it. -/
  | unpackaged {name : String} (hname : IsWrittenSimply imports name)
      (hother : Text.simpleName name ∉ imports) : IsWrittenLike name (Text.simpleName name)
  /-- The full name of a class is the relative name of a class of the package. -/
  | relative {name : String} (hname : IsWrittenRelative table package imports name)
      (hother : IsWrittenInFull table package imports name) :
      IsWrittenLike (package ++ "." ++ name) name

end Forms

/-- A scope of names writes classes for a package and its imports. -/
structure NameScope.IsScopeOf (scope : NameScope) (table : ClassTable) (package : String)
    (imports : List String) : Prop where
  package_eq : scope.package = package
  find?_imported (name : String) :
    scope.imported.find? name = if name ∈ imports then some (Text.simpleName name) else none
  isOwn_iff (name : String) :
    scope.isOwn name = true ↔ ∃ decl, table.find? name = some decl ∧ decl.package = package

theorem NameScope.languageName?_eq_some_iff {name simple : String} :
    languageName? name = some simple ↔ name = "java.lang." ++ simple ∧ '.' ∉ simple.toList := by
  rw [languageName?]
  cases hdrop : Text.dropPrefix? "java.lang." name with
  | none =>
    have hother : name ≠ "java.lang." ++ simple := by
      intro heq
      rw [Text.dropPrefix?_eq_some_iff.2 heq] at hdrop
      cases hdrop
    simp [hother]
  | some rest =>
    obtain rfl := Text.dropPrefix?_eq_some_iff.1 hdrop
    simp only [Text.isQualified, List.contains_iff_mem, String.append_right_inj]
    by_cases hdot : '.' ∈ rest.toList
    · rw [if_pos hdot]
      constructor
      · intro h
        cases h
      · rintro ⟨rfl, hsimple⟩
        exact absurd hdot hsimple
    · rw [if_neg hdot, Option.some.injEq]
      constructor
      · rintro rfl
        exact ⟨rfl, hdot⟩
      · rintro ⟨rfl, -⟩
        rfl

namespace NameScope.IsScopeOf

variable {scope : NameScope} {table : ClassTable} {package : String} {imports : List String}
  (h : scope.IsScopeOf table package imports)

include h

theorem isShadowed_iff (relative : String) :
    scope.isShadowed relative = true ↔
      ∃ imported ∈ imports, (Text.segments relative).head? = some (Text.simpleName imported) := by
  rw [isShadowed, List.any_eq_true]
  simp only [SortedTable.mem_values_iff, h.find?_imported, beq_iff_eq]
  constructor
  · rintro ⟨simple, ⟨imported, hfind⟩, hhead⟩
    split at hfind
    · next hmem =>
      cases hfind
      exact ⟨imported, hmem, hhead.symm⟩
    · cases hfind
  · rintro ⟨imported, hmem, hhead⟩
    exact ⟨_, ⟨imported, if_pos hmem⟩, hhead.symm⟩

/-- What is written simply is written by its simple name. -/
theorem name_of_simply {name : String} (hname : IsWrittenSimply imports name) :
    scope.name name = Text.simpleName name := by
  rw [NameScope.name, h.find?_imported]
  by_cases hmem : name ∈ imports
  · rw [if_pos hmem]
  · rw [if_neg hmem]
    obtain ⟨simple, rfl, hsimple⟩ := hname.resolve_left hmem
    rw [languageName?_eq_some_iff.2 ⟨rfl, hsimple⟩, Text.simpleName_language hsimple]

/-- What is not written simply has its relative name, if it has one, and its full name otherwise. -/
theorem name_of_not_simply {name : String} (hname : ¬ IsWrittenSimply imports name) :
    scope.name name = (scope.relativeName? name).getD name := by
  have hlanguage : languageName? name = none := by
    cases hfound : languageName? name with
    | none => rfl
    | some simple => exact absurd (.inr ⟨simple, languageName?_eq_some_iff.1 hfound⟩) hname
  rw [NameScope.name, h.find?_imported, if_neg fun hmem => hname (.inl hmem), hlanguage]

/-- The relative names are those by which classes of the package are written. -/
theorem relativeName?_eq_some_iff {name relative : String} (hname : ¬ IsWrittenSimply imports name) :
    scope.relativeName? name = some relative ↔
      name = package ++ "." ++ relative ∧ IsWrittenRelative table package imports relative := by
  have hshadowed := h.isShadowed_iff
  have howned := h.isOwn_iff name
  rw [relativeName?, h.package_eq]
  by_cases hforeign : package = "" ∨ ¬ scope.isOwn name = true
  · rw [if_pos hforeign]
    constructor
    · intro hnone
      cases hnone
    · rintro ⟨rfl, hrelative⟩
      rcases hforeign with hpackage | hother
      · exact absurd hpackage hrelative.package_ne
      · exact absurd (howned.2 hrelative.owned) hother
  · obtain ⟨hpackage, hown⟩ := not_or.1 hforeign
    rw [if_neg hforeign]
    cases hdrop : Text.dropPrefix? (package ++ ".") name with
    | none =>
      constructor
      · intro hnone
        cases hnone
      · rintro ⟨rfl, -⟩
        rw [Text.dropPrefix?_eq_some_iff.2 rfl] at hdrop
        cases hdrop
    | some rest =>
      obtain rfl := Text.dropPrefix?_eq_some_iff.1 hdrop
      dsimp only
      rw [String.append_right_inj]
      by_cases hshadow : scope.isShadowed rest = true
      · rw [if_pos hshadow]
        constructor
        · intro hnone
          cases hnone
        · rintro ⟨rfl, hrelative⟩
          obtain ⟨imported, hmem, hhead⟩ := (hshadowed rest).1 hshadow
          exact absurd hhead (hrelative.free imported hmem)
      · rw [if_neg hshadow, Option.some.injEq]
        constructor
        · rintro rfl
          exact ⟨rfl, hpackage, howned.1 (not_not.1 hown), hname,
            fun imported hmem hhead => hshadow ((hshadowed rest).2 ⟨imported, hmem, hhead⟩)⟩
        · rintro ⟨rfl, -⟩
          rfl

theorem name_of_relative {relative : String}
    (hrelative : IsWrittenRelative table package imports relative) :
    scope.name (package ++ "." ++ relative) = relative := by
  rw [h.name_of_not_simply hrelative.not_simply,
    (h.relativeName?_eq_some_iff hrelative.not_simply).2 ⟨rfl, hrelative⟩, Option.getD_some]

theorem name_of_full {name : String} (hname : IsWrittenInFull table package imports name) :
    scope.name name = name := by
  have hnone : scope.relativeName? name = none := by
    cases hfound : scope.relativeName? name with
    | none => rfl
    | some relative =>
      obtain ⟨heq, hrelative⟩ := (h.relativeName?_eq_some_iff hname.1).1 hfound
      exact absurd hrelative (hname.2 relative heq)
  rw [h.name_of_not_simply hname.1, hnone, Option.getD_none]

end NameScope.IsScopeOf

/-- Every class is written by exactly one of the three forms. -/
theorem form_cases (table : ClassTable) (package : String) (imports : List String) (name : String) :
    IsWrittenSimply imports name ∨
      (∃ relative, name = package ++ "." ++ relative ∧
        IsWrittenRelative table package imports relative) ∨
      IsWrittenInFull table package imports name := by
  by_cases hsimply : IsWrittenSimply imports name
  · exact .inl hsimply
  · by_cases hrelative : ∃ relative, name = package ++ "." ++ relative ∧
        IsWrittenRelative table package imports relative
    · exact .inr (.inl hrelative)
    · exact .inr (.inr ⟨hsimply, fun relative heq h => hrelative ⟨relative, heq, h⟩⟩)

/-! ## Classes that are written alike -/

section Alike

variable {table : ClassTable} {package : String} {imports : List String} {name : String}

/-- A class that is written simply and one of the package are written alike only if the first one is of
the language: imports take precedence over relative names. -/
theorem writtenLike_of_simpleName {relative : String} (hname : IsWrittenSimply imports name)
    (hrelative : IsWrittenRelative table package imports relative)
    (hsame : Text.simpleName name = relative) :
    IsWrittenLike table package imports (package ++ "." ++ relative) name := by
  subst hsame
  have hhead : (Text.segments (Text.simpleName name)).head? = some (Text.simpleName name) := by
    rw [Text.segments_of_not_mem (Text.not_mem_simpleName name), List.head?_cons]
  obtain ⟨simple, rfl, hsimple⟩ := hname.resolve_left fun hmem => hrelative.free name hmem hhead
  rw [Text.simpleName_language hsimple] at hrelative ⊢
  exact .language hsimple hrelative

theorem writtenLike_of_full {other : String} (hname : IsWrittenSimply imports name)
    (hother : IsWrittenInFull table package imports other) (hsame : Text.simpleName name = other) :
    IsWrittenLike table package imports name other := by
  subst hsame
  exact .unpackaged hname fun hmem => hother.1 (.inl hmem)

end Alike

namespace NameScope.IsScopeOf

variable {scope : NameScope} {table : ClassTable} {package : String} {imports : List String}
  (h : scope.IsScopeOf table package imports)

include h

theorem name_eq_of_writtenLike {name other : String}
    (hlike : IsWrittenLike table package imports name other) : scope.name name = scope.name other := by
  cases hlike with
  | simple hname hother hsame => rw [h.name_of_simply hname, h.name_of_simply hother, hsame]
  | @language simple hsimple hrelative =>
    rw [h.name_of_relative hrelative, h.name_of_simply (.inr ⟨simple, rfl, hsimple⟩),
      Text.simpleName_language hsimple]
  | @unpackaged name hname hother =>
    -- The simple name has no dot, so it is the name of no class of the language or of the package.
    have hdotless := Text.not_mem_simpleName name
    have hfull : IsWrittenInFull table package imports (Text.simpleName name) := by
      refine ⟨?_, ?_⟩
      · rintro (hmem | ⟨simple, heq, -⟩)
        · exact hother hmem
        · exact hdotless (heq ▸ by simp)
      · intro relative heq
        exact absurd (heq ▸ by simp) hdotless
    rw [h.name_of_simply hname, h.name_of_full hfull]
  | relative hname hother => rw [h.name_of_relative hname, h.name_of_full hother]

/-- Two classes are written alike in these ways only. -/
theorem name_eq_iff {name other : String} (hne : name ≠ other) :
    scope.name name = scope.name other ↔
      IsWrittenLike table package imports name other ∨
        IsWrittenLike table package imports other name := by
  constructor
  · intro heq
    rcases form_cases table package imports name with hname | ⟨relative, rfl, hname⟩ | hname <;>
      rcases form_cases table package imports other with hother | ⟨further, rfl, hother⟩ | hother
    · rw [h.name_of_simply hname, h.name_of_simply hother] at heq
      exact .inl (.simple hname hother heq)
    · rw [h.name_of_simply hname, h.name_of_relative hother] at heq
      exact .inr (writtenLike_of_simpleName hname hother heq)
    · rw [h.name_of_simply hname, h.name_of_full hother] at heq
      exact .inl (writtenLike_of_full hname hother heq)
    · rw [h.name_of_relative hname, h.name_of_simply hother] at heq
      exact .inl (writtenLike_of_simpleName hother hname heq.symm)
    · rw [h.name_of_relative hname, h.name_of_relative hother] at heq
      exact absurd (by rw [heq]) hne
    · rw [h.name_of_relative hname, h.name_of_full hother] at heq
      subst heq
      exact .inl (.relative hname hother)
    · rw [h.name_of_full hname, h.name_of_simply hother] at heq
      exact .inr (writtenLike_of_full hother hname heq.symm)
    · rw [h.name_of_full hname, h.name_of_relative hother] at heq
      subst heq
      exact .inr (.relative hother hname)
    · rw [h.name_of_full hname, h.name_of_full hother] at heq
      exact absurd heq hne
  · rintro (hlike | hlike)
    · exact h.name_eq_of_writtenLike hlike
    · exact (h.name_eq_of_writtenLike hlike).symm

/-! ## The unit of a builder -/

theorem addImport (name : String) :
    (scope.addImport name).IsScopeOf table package (name :: imports) where
  package_eq := h.package_eq
  find?_imported other := by
    rw [NameScope.addImport]
    dsimp only
    rw [SortedTable.find?_insert, h.find?_imported]
    by_cases hself : other = name
    · rw [if_pos hself, if_pos (List.mem_cons.2 (.inl hself)), hself]
    · rw [if_neg hself]
      simp only [List.mem_cons, hself, false_or]
  isOwn_iff := h.isOwn_iff

/-- Declaring a class of the package that the table knows changes nothing. -/
theorem declareLocal {decl : ClassDecl} (hfind : table.find? decl.name = some decl)
    (hpackage : decl.package = package) :
    (scope.declareLocal decl.name).IsScopeOf table package imports where
  package_eq := h.package_eq
  find?_imported := h.find?_imported
  isOwn_iff name := by
    have hown : (scope.declareLocal decl.name).isOwn name = true ↔
        name = decl.name ∨ scope.isOwn name = true := by
      simp [NameScope.isOwn, NameScope.declareLocal, or_assoc]
    rw [hown, h.isOwn_iff]
    constructor
    · rintro (rfl | hknown)
      · exact ⟨decl, hfind, hpackage⟩
      · exact hknown
    · exact .inr

end NameScope.IsScopeOf

theorem isScopeOf_start (table : ClassTable) (package : String) :
    (NameScope.mk package table .empty []).IsScopeOf table package [] where
  package_eq := rfl
  find?_imported _ := rfl
  isOwn_iff name := by
    cases hfind : table.find? name with
    | none => simp [NameScope.isOwn, hfind]
    | some decl => simp [NameScope.isOwn, hfind]

/-- The support annotations that a unit imports. -/
def supportImports : Option String → List String
  | none => []
  | some package => [package ++ ".Nullable", package ++ ".NonNull"]

/-- The classes that the unit of a builder imports: support annotations if there are any, a nested
controller, and the bundle. -/
def importedClasses (controller : Controller) (platform : Platform) (supportPackage? : Option String) :
    List String :=
  supportImports supportPackage? ++ (if controller.enclosing.isEmpty then [] else
    [controller.qualifiedName]) ++ [platform.bundleClass]

/-- A builder for a class of the table has a scope for its package and its imports. -/
theorem isScopeOf_ofController {table : ClassTable} {decl : ClassDecl} (hdecl : decl ∈ table.classes)
    {inherited : Bool} {controller : Controller} (hbuilt : Controller.Built decl inherited controller)
    (platform : Platform) (supportPackage? : Option String) (annotations : List String) :
    (BuilderScope.ofController controller platform table supportPackage? annotations).names.IsScopeOf
      table decl.package (importedClasses controller platform supportPackage?) := by
  have hname : controller.qualifiedName = decl.name :=
    hbuilt.view_eq Controller.qualifiedName fun _ _ _ _ _ _ => rfl
  have hbase : (BuilderScope.baseNames controller platform table).IsScopeOf table decl.package
      ((if controller.enclosing.isEmpty then [] else [controller.qualifiedName])
        ++ [platform.bundleClass]) := by
    have hbundle := (isScopeOf_start table controller.package).addImport platform.bundleClass
    rw [hbuilt.package_eq] at hbundle
    rw [BuilderScope.baseNames, hbuilt.package_eq]
    split
    · rw [hname]
      exact hbundle.declareLocal ((ClassTable.mem_classes_iff table decl).1 hdecl) rfl
    · exact hbundle.addImport controller.qualifiedName
  cases supportPackage? with
  | none => exact hbase
  | some package => exact (hbase.addImport (package ++ ".NonNull")).addImport (package ++ ".Nullable")

/-- **How classes are written.** In the unit of a builder for a class of the table, two classes are
written alike if and only if they have the same simple name and are both written by it, or one of them
is a class of the package that is called like a class of the language, or one of them is written in full
and has a name that is the shorter name of the other one. -/
theorem name_eq_name_iff {table : ClassTable} {decl : ClassDecl} (hdecl : decl ∈ table.classes)
    {inherited : Bool} {controller : Controller} (hbuilt : Controller.Built decl inherited controller)
    (platform : Platform) (supportPackage? : Option String) (annotations : List String)
    {name other : String} (hne : name ≠ other) :
    let scope := (BuilderScope.ofController controller platform table supportPackage? annotations).names
    let imports := importedClasses controller platform supportPackage?
    scope.name name = scope.name other ↔
      IsWrittenLike table decl.package imports name other ∨
        IsWrittenLike table decl.package imports other name :=
  (isScopeOf_ofController hdecl hbuilt platform supportPackage? annotations).name_eq_iff hne

/-! ### Imports of the same simple name, and a class called like one of the language -/

/-- A nested controller that is called like the bundle class. -/
def nestedBundle : ClassDecl :=
  { name := "app.Screen.Bundle", package? := some "app", modifiers := [.static] }

/-- Both classes are imported, so both are written by their common simple name. -/
theorem name_eq_name_bundle :
    let table := (ClassTable.ofPlatform {}).insert nestedBundle
    let controller := Controller.ofClass nestedBundle true
    let scope := (BuilderScope.ofController controller {} table none []).names
    nestedBundle ∈ table.classes ∧ Controller.Built nestedBundle true controller ∧
      "android.os.Bundle" ≠ "app.Screen.Bundle" ∧
      scope.name "android.os.Bundle" = scope.name "app.Screen.Bundle" := by
  intro table controller scope
  have hdecl : nestedBundle ∈ table.classes := by decide +kernel
  have hne : "android.os.Bundle" ≠ "app.Screen.Bundle" := by decide
  refine ⟨hdecl, .start, hne, (name_eq_name_iff hdecl .start {} none [] hne).2 (.inl ?_)⟩
  exact .simple (.inl (by decide +kernel)) (.inl (by decide +kernel)) (by decide +kernel)

/-- The package has a class `Number`, which in the units of the package is written like the class of the
language. -/
theorem number_written_alike :
    Catalog.Gathered Catalog.numberCatalog ∧
      ∃ decl ∈ (Catalog.numberCatalog.toTable {}).classes, ∃ controller,
        Controller.Built decl true controller ∧
        "java.lang.Number" ∈ (Catalog.numberCatalog.toTable {}).names ∧
        "app.Number" ∈ (Catalog.numberCatalog.toTable {}).names ∧
        (BuilderScope.ofController controller {} (Catalog.numberCatalog.toTable {}) none
            []).names.name "java.lang.Number"
          = (BuilderScope.ofController controller {} (Catalog.numberCatalog.toTable {}) none
              []).names.name "app.Number" := by
  have hdecl : Catalog.numberCatalog.resolveNames Catalog.numberDetail
      ∈ (Catalog.numberCatalog.toTable {}).classes := by
    decide +kernel
  exact ⟨Catalog.gathered_number, _, hdecl, _, .start, by decide +kernel, by decide +kernel,
    by decide +kernel⟩

end Java

end BundleBuilder
