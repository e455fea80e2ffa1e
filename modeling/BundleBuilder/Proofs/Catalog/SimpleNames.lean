import BundleBuilder.Proofs.Catalog.Reloading
import BundleBuilder.Proofs.JavaType.Positions
import BundleBuilder.Proofs.Text.Joining
import Mathlib.Logic.Relation

/-!
# Simple names in a package

A loaded class may name another class of its package by its simple name, at every position of each of
its types. Such a name is completed with the package, unless it is also the simple name of an implicitly
imported class: then it denotes that class, although the package has one of the name
(`named_in_package_iff`).

Names of type parameters are left out. They are those of the class itself and of the loaded classes
around it; the search for them goes as far outwards as there are loaded classes
(`mem_typeParametersInScope_iff`).
-/

set_option autoImplicit false

namespace BundleBuilder

open Table

namespace JavaType

variable {params : List String} {package : String} {known : List String} {name : String}

/-- The simple name of an implicitly imported class denotes that class, whatever the package has. -/
theorem resolvedName_of_imported (himported : name ∈ implicitImports) :
    qualifyName package known (importImplicitly name) = "java.lang." ++ name := by
  rw [importImplicitly, if_pos (List.contains_iff_mem.2 himported), qualifyName_of_dot (by simp)]

/-- Any other simple name denotes the class of the package, if that is known. -/
theorem resolvedName_of_known (hother : name ∉ implicitImports) (hpackage : package ≠ "")
    (hsimple : '.' ∉ name.toList) (hknown : package ++ "." ++ name ∈ known) :
    qualifyName package known (importImplicitly name) = package ++ "." ++ name := by
  have hunqualified : ¬ Text.isQualified name = true := fun h => hsimple (List.contains_iff_mem.1 h)
  rw [importImplicitly, if_neg fun h => hother (List.contains_iff_mem.1 h), qualifyName,
    if_pos ⟨hpackage, hunqualified, hknown⟩]

end JavaType

/-- The types of a class by their place in its declaration, and the types inside them by position. -/
def ClassDecl.typeAt? (decl : ClassDecl) (place : Nat) (position : List Nat) : Option JavaType :=
  decl.types[place]?.bind (JavaType.partAt? position)

/-- Everything in front of the last dot has one segment less. -/
theorem Text.length_segments_of_qualifier? {name outer : String}
    (h : Text.qualifier? name = some outer) :
    (Text.segments outer).length + 1 = (Text.segments name).length := by
  unfold Text.qualifier? at h
  split at h
  · cases h
  · next front hfront =>
    cases h
    have hne : (Text.segments name).dropLast ≠ [] := fun hnil => hfront hnil
    have hdots : ∀ segment ∈ (Text.segments name).dropLast, '.' ∉ segment.toList :=
      fun segment hsegment => Text.not_mem_of_mem_split (List.dropLast_subset _ hsegment)
    have hsplit : Text.segments (Text.dotted (Text.segments name).dropLast)
        = (Text.segments name).dropLast := Text.split_join rfl hne hdots
    have hpos : 0 < (Text.segments name).length :=
      List.length_pos_of_ne_nil (Text.split_ne_nil '.' name)
    rw [hsplit, List.length_dropLast]
    omega

namespace Catalog

/-! ## Type parameters in scope -/

/-- The loaded class directly around a class. -/
def IsAround (catalog : Catalog) (decl outer : ClassDecl) : Prop :=
  decl.enclosingClass? = some outer.name ∧ outer ∈ catalog.declarations

/-- A type parameter of a class or of a loaded class around it. -/
def HasTypeParameter (catalog : Catalog) (decl : ClassDecl) (param : String) : Prop :=
  ∃ owner, Relation.ReflTransGen catalog.IsAround decl owner ∧ param ∈ owner.typeParameterNames

section Scopes

variable {catalog : Catalog} (h : Holds catalog catalog.declarations)

include h

theorem typeParametersWithin_eq {decl : ClassDecl} (hdecl : decl ∈ catalog.declarations)
    (levels : Nat) :
    catalog.typeParametersWithin (levels + 1) decl.name
      = decl.typeParameterNames ++ match decl.enclosingClass? with
        | none => []
        | some outer => catalog.typeParametersWithin levels outer := by
  refine (typeParametersWithin_succ catalog levels decl.name).trans ?_
  have hfind := (h.find?_eq_some_iff decl.name decl).2 ⟨hdecl, rfl⟩
  cases hloaded : catalog.classes.find? decl.name with
  | none =>
    rw [hloaded] at hfind
    cases hfind
  | some loaded =>
    rw [hloaded, Option.map_some, Option.some.injEq] at hfind
    rw [← hfind]
    rfl

/-- What is found within a number of levels belongs to the class or to one around it. -/
theorem hasTypeParameter_of_mem {param : String} (levels : Nat) :
    ∀ {decl : ClassDecl}, decl ∈ catalog.declarations →
      param ∈ catalog.typeParametersWithin levels decl.name → catalog.HasTypeParameter decl param := by
  induction levels with
  | zero =>
    intro decl _ hparam
    cases hparam
  | succ levels ih =>
    intro decl hdecl hparam
    rw [typeParametersWithin_eq h hdecl] at hparam
    rcases List.mem_append.1 hparam with hown | houter
    · exact ⟨decl, .refl, hown⟩
    · cases henclosing : decl.enclosingClass? with
      | none => simp [henclosing] at houter
      | some outer =>
        rw [henclosing] at houter
        cases hfind : (catalog.classes.find? outer).map LoadedClass.decl with
        | none =>
          cases levels with
          | zero => cases houter
          | succ levels => simp [typeParametersWithin_succ, hfind] at houter
        | some around =>
          obtain ⟨hloaded, rfl⟩ := (h.find?_eq_some_iff outer around).1 hfind
          obtain ⟨owner, hchain, howner⟩ := ih hloaded houter
          exact ⟨owner, .head ⟨henclosing, hloaded⟩ hchain, howner⟩

/-- As many levels as the name has segments are enough, since every level takes a segment off. -/
theorem mem_of_hasTypeParameter {param : String} {decl owner : ClassDecl}
    (hchain : Relation.ReflTransGen catalog.IsAround decl owner)
    (hparam : param ∈ owner.typeParameterNames) :
    ∀ {levels : Nat}, decl ∈ catalog.declarations → (Text.segments decl.name).length ≤ levels →
      param ∈ catalog.typeParametersWithin levels decl.name := by
  have hpos : ∀ name, 0 < (Text.segments name).length :=
    fun name => List.length_pos_of_ne_nil (Text.split_ne_nil '.' name)
  induction hchain using Relation.ReflTransGen.head_induction_on with
  | refl =>
    intro levels hdecl hlevels
    obtain ⟨fewer, rfl⟩ : ∃ fewer, levels = fewer + 1 := ⟨levels - 1, by have := hpos owner.name; omega⟩
    rw [typeParametersWithin_eq h hdecl]
    exact List.mem_append_left _ hparam
  | @head inner outer haround _ ih =>
    intro levels hdecl hlevels
    obtain ⟨fewer, rfl⟩ : ∃ fewer, levels = fewer + 1 := ⟨levels - 1, by have := hpos inner.name; omega⟩
    obtain ⟨henclosing, hloaded⟩ := haround
    have hqualifier : Text.qualifier? inner.name = some outer.name := by
      unfold ClassDecl.enclosingClass? at henclosing
      split at henclosing
      · exact henclosing
      · cases henclosing
    have hlength := Text.length_segments_of_qualifier? hqualifier
    rw [typeParametersWithin_eq h hdecl, henclosing]
    exact List.mem_append_right _ (ih hloaded (by omega))

/-- The type parameters in scope of a loaded class are its own and those of the loaded classes around
it. -/
theorem mem_typeParametersInScope_iff {decl : ClassDecl} (hdecl : decl ∈ catalog.declarations)
    (param : String) :
    param ∈ catalog.typeParametersInScope decl.name ↔ catalog.HasTypeParameter decl param :=
  ⟨hasTypeParameter_of_mem h _ hdecl,
    fun ⟨_, hchain, hparam⟩ => mem_of_hasTypeParameter h hchain hparam hdecl (Nat.le_refl _)⟩

end Scopes

/-! ## Resolved classes -/

/-- At each position of each type of a resolved class stands what was declared there, resolved. -/
theorem typeAt?_resolveNames (catalog : Catalog) (decl : ClassDecl) (place : Nat)
    (position : List Nat) :
    (catalog.resolveNames decl).typeAt? place position
      = (decl.typeAt? place position).map (catalog.resolution decl) := by
  rw [ClassDecl.typeAt?, ClassDecl.typeAt?, types_resolveNames, List.getElem?_map]
  cases decl.types[place]? with
  | none => rfl
  | some type => exact JavaType.partAt?_resolve position type

/-- A name that is no type parameter in scope is resolved to a class. -/
theorem resolution_declared {catalog : Catalog} (h : Holds catalog catalog.declarations)
    {decl : ClassDecl} (hdecl : decl ∈ catalog.declarations) {name : String} {args : List JavaType}
    (hfree : ¬ (args = [] ∧ catalog.HasTypeParameter decl name)) :
    catalog.resolution decl (.declared name args)
      = .declared
          (JavaType.qualifyName decl.package catalog.classes.keys (JavaType.importImplicitly name))
          (args.map (catalog.resolution decl)) := by
  rw [← mem_typeParametersInScope_iff h hdecl] at hfree
  rw [resolution, JavaType.resolve_declared, if_neg hfree]

/-- **Simple names in a package.** Wherever a loaded class of a package mentions a loaded class of the
same package by its simple name, and the name is not that of a type parameter, the class table has the
qualified name there if and only if the simple name is not that of an implicitly imported class. If it
is, the table has the name of the implicitly imported class, which is another one except inside
`java.lang`. -/
theorem named_in_package_iff {catalog : Catalog} (hgathered : Gathered catalog) (platform : Platform)
    {decl : ClassDecl} (hdecl : decl ∈ catalog.declarations) (hpackage : decl.package ≠ "") :
    ∃ resolved, (catalog.toTable platform).find? decl.name = some resolved ∧
      ∀ (place : Nat) (position : List Nat) (name : String) (args : List JavaType),
        decl.typeAt? place position = some (.declared name args) → '.' ∉ name.toList →
        ¬ (args = [] ∧ catalog.HasTypeParameter decl name) →
        decl.package ++ "." ++ name ∈ catalog.declarations.map ClassDecl.name →
        ∃ found arguments, resolved.typeAt? place position = some (.declared found arguments) ∧
          (found = decl.package ++ "." ++ name ↔
            name ∉ JavaType.implicitImports ∨ decl.package = "java.lang") ∧
          (name ∈ JavaType.implicitImports → found = "java.lang." ++ name) := by
  have hholds := hgathered.holds
  have hmem : catalog.resolveNames decl ∈ catalog.resolvedClasses := by
    rw [hholds.resolvedClasses_eq]
    exact List.mem_map_of_mem hdecl
  refine ⟨catalog.resolveNames decl, find?_toTable_of_mem hholds platform hmem, ?_⟩
  intro place position name args htype hsimple hfree hloaded
  have hknown : decl.package ++ "." ++ name ∈ catalog.classes.keys := by
    rw [hholds.keys_eq]
    exact hloaded
  rw [typeAt?_resolveNames, htype, Option.map_some, resolution_declared hholds hdecl hfree]
  refine ⟨_, _, rfl, ?_⟩
  by_cases himported : name ∈ JavaType.implicitImports
  · rw [JavaType.resolvedName_of_imported himported]
    have hsame : "java.lang." ++ name = decl.package ++ "." ++ name ↔ decl.package = "java.lang" := by
      have hfront : "java.lang." = "java.lang" ++ "." := by decide
      rw [hfront, String.append_left_inj, String.append_left_inj, eq_comm]
    exact ⟨hsame.trans (by simp [himported]), fun _ => rfl⟩
  · rw [JavaType.resolvedName_of_known himported hpackage hsimple hknown]
    exact ⟨by simp [himported], fun h => absurd h himported⟩

/-! ### A package with a class that is called like an implicitly imported one -/

/-- A package with a class `Number` and a class `Item`, and a class that mentions both. -/
def numberDocument : Document where
  contents := "classes:\n- name: app.Number\n- name: app.Item\n" ++
    "- name: app.Detail\n  fields:\n  - name: count\n    type: Number\n" ++
      "  - name: items\n    type: \"List<? extends Item[]>\"\n"
  path := "number.yaml"

def numberDetail : ClassDecl where
  name := "app.Detail"
  fields :=
    [{ name := "count", type := .named "Number" },
      { name := "items", type := .declared "List" [.wildcardExtends (.array (.named "Item"))] }]

def numberDecls : List ClassDecl := [{ name := "app.Number" }, { name := "app.Item" }, numberDetail]

def numberCatalog : Catalog := { classes := ⟨entriesFrom numberDocument.path numberDecls, by decide⟩ }

theorem gathered_number : Gathered numberCatalog := by
  have hdeclares : numberDocument.Declares numberDecls :=
    ⟨{ classes := numberDecls }, by decide +kernel, rfl, rfl⟩
  have hnames : ∀ decl ∈ numberDecls, decl.IsWellNamed := by
    simp [numberDecls, numberDetail, ClassDecl.IsWellNamed]
  have hload : loadText { tree := .empty } {} numberDocument.contents numberDocument.path
      = (numberCatalog, none) :=
    (loadText_eq_none_iff hdeclares {} numberCatalog).2 ⟨hnames, by decide, rfl, rfl⟩
  have h := Gathered.fresh.text { tree := .empty } numberDocument.contents numberDocument.path
  rwa [hload] at h

theorem hasTypeParameter_number (name : String) :
    ¬ numberCatalog.HasTypeParameter numberDetail name := by
  have hnone : numberCatalog.typeParametersInScope numberDetail.name = [] := by decide +kernel
  rw [← mem_typeParametersInScope_iff gathered_number.holds (by decide), hnone]
  exact List.not_mem_nil

/-- The simple name below an array and a wildcard is completed. -/
theorem named_in_package_item :
    Gathered numberCatalog ∧ numberDetail ∈ numberCatalog.declarations ∧
      numberDetail.package ≠ "" ∧
      numberDetail.typeAt? 1 [0, 0, 0] = some (.named "Item") ∧
      ∃ resolved arguments, (numberCatalog.toTable {}).find? numberDetail.name = some resolved ∧
        resolved.typeAt? 1 [0, 0, 0] = some (.declared "app.Item" arguments) := by
  have hmem : numberDetail ∈ numberCatalog.declarations := by decide
  have hpackage : numberDetail.package ≠ "" := by decide
  refine ⟨gathered_number, hmem, hpackage, rfl, ?_⟩
  obtain ⟨resolved, hfind, hnamed⟩ := named_in_package_iff gathered_number {} hmem hpackage
  obtain ⟨found, arguments, htype, hfound, -⟩ :=
    hnamed 1 [0, 0, 0] "Item" [] rfl (by decide) (fun h => hasTypeParameter_number _ h.2) (by decide)
  have hitem : found = "app.Item" := hfound.2 (.inl (by decide))
  exact ⟨resolved, arguments, hfind, hitem ▸ htype⟩

/-- The package has a class `Number`, but in its class `Detail` the simple name denotes another one. -/
theorem number_denotes_imported :
    Gathered numberCatalog ∧ numberDetail ∈ numberCatalog.declarations ∧
      numberDetail.package = "app" ∧
      "app.Number" ∈ numberCatalog.declarations.map ClassDecl.name ∧
      numberDetail.typeAt? 0 [] = some (.named "Number") ∧
      ¬ numberCatalog.HasTypeParameter numberDetail "Number" ∧
      ¬ ∃ resolved arguments, (numberCatalog.toTable {}).find? numberDetail.name = some resolved ∧
        resolved.typeAt? 0 [] = some (.declared "app.Number" arguments) := by
  refine ⟨gathered_number, by decide, by decide, by decide, rfl, hasTypeParameter_number _, ?_⟩
  rintro ⟨resolved, arguments, hfind, htype⟩
  have hholds := gathered_number.holds
  have hmem : numberCatalog.resolveNames numberDetail ∈ numberCatalog.resolvedClasses := by
    rw [hholds.resolvedClasses_eq]
    exact List.mem_map_of_mem (by decide)
  have hsame := find?_toTable_of_mem hholds {} hmem
  obtain rfl : resolved = numberCatalog.resolveNames numberDetail :=
    Option.some.inj (hfind.symm.trans hsame)
  have hnumber : (numberCatalog.resolveNames numberDetail).typeAt? 0 []
      = some (.named "java.lang.Number") := by
    decide +kernel
  rw [hnumber] at htype
  exact absurd (JavaType.declared.inj (Option.some.inj htype)).1 (by decide)

end Catalog

end BundleBuilder
