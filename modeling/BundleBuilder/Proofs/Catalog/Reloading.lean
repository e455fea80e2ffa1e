import BundleBuilder.Proofs.Catalog.Gathering
import BundleBuilder.Proofs.ClassTable.Reinsertion
import BundleBuilder.Proofs.JavaType.NameResolution

/-!
# Loading what was loaded

The loaded classes can be taken from the class table, written down with each type as its text, read
back and loaded into a fresh catalog. This gives the same table if and only if all classes that their
types mention are named by dotted sequences of identifiers (`reload_eq_iff`). Packages may be named
otherwise, and then a completed name has a text that is no type.

What is written down has the same outline as what was declared: the same names, packages and type
parameters, so every scope stays as it is. In these scopes the written types are resolved to the types
that were written down, because resolving is idempotent.
-/

set_option autoImplicit false

namespace BundleBuilder

open Table Files

namespace ClassDecl

/-- A declaration is read back as another one: each type in it is replaced by what is read from its
text. -/
def ReadsBackAs (decl written : ClassDecl) : Prop :=
  ∃ read : JavaType → JavaType, written = decl.mapTypes read ∧
    ∀ type ∈ decl.types, JavaType.parse type.text = .ok (read type)

theorem ReadsBackAs.outline_eq {decl written : ClassDecl} (h : decl.ReadsBackAs written) :
    written.outline = decl.outline := by
  obtain ⟨read, rfl, -⟩ := h
  exact outline_mapTypes decl read

theorem ReadsBackAs.name_eq {decl written : ClassDecl} (h : decl.ReadsBackAs written) :
    written.name = decl.name := by
  obtain ⟨read, rfl, -⟩ := h
  rfl

theorem isWellNamed_of_outline_eq {decl other : ClassDecl} (h : decl.outline = other.outline)
    (hother : other.IsWellNamed) : decl.IsWellNamed := by
  have houtline : other.outline.IsWellNamed := hother
  rw [← h] at houtline
  exact houtline

theorem map_name_outlines (decls : List ClassDecl) :
    (decls.map outline).map ClassDecl.name = decls.map ClassDecl.name := by
  rw [List.map_map]
  rfl

end ClassDecl

namespace Catalog

/-! ## Scopes -/

section Scopes

variable {decls : List ClassDecl}

/-- A type parameter in scope belongs to a class. -/
theorem exists_of_mem_typeParametersWithin {catalog : Catalog} (h : Holds catalog decls)
    {param : String} (levels : Nat) : ∀ {name : String},
      param ∈ catalog.typeParametersWithin levels name →
        ∃ decl ∈ decls, param ∈ decl.typeParameterNames := by
  induction levels with
  | zero =>
    intro name hparam
    cases hparam
  | succ levels ih =>
    intro name hparam
    rw [typeParametersWithin_succ] at hparam
    cases hfind : (catalog.classes.find? name).map LoadedClass.decl with
    | none =>
      rw [hfind] at hparam
      cases hparam
    | some decl =>
      simp only [hfind] at hparam
      rcases List.mem_append.1 hparam with hown | houter
      · exact ⟨decl, ((h.find?_eq_some_iff name decl).1 hfind).1, hown⟩
      · cases henclosing : decl.enclosingClass? with
        | none => simp [henclosing] at houter
        | some outer =>
          rw [henclosing] at houter
          exact ih houter

end Scopes

/-! ## Reading back -/

section Reading

variable {catalog : Catalog} {decls written : List ClassDecl}

/-- The declarations that are read back have the outlines of those that were written down. -/
theorem outlines_of_readsBack (h : List.Forall₂ ClassDecl.ReadsBackAs decls written) :
    written.map ClassDecl.outline = decls.map ClassDecl.outline := by
  induction h with
  | nil => rfl
  | cons hfirst _ ih => rw [List.map_cons, List.map_cons, hfirst.outline_eq, ih]

/-- Declarations that are read back can be loaded, if those that were written down are named well and
have distinct names. -/
theorem exists_loads_of_readsBack (files : FileSystem) (includes : List String) (origin : String)
    (h : List.Forall₂ ClassDecl.ReadsBackAs decls written)
    (hnames : ∀ decl ∈ decls, decl.IsWellNamed) (hnodup : (decls.map ClassDecl.name).Nodup) :
    ∃ reloaded, Loads files includes {} (tasksOf { classes := written } origin) reloaded ∧
      Holds reloaded written := by
  have houtlines := outlines_of_readsBack h
  have hwritten : ∀ decl ∈ written, decl.IsWellNamed := by
    intro decl hdecl
    have hmem : decl.outline ∈ decls.map ClassDecl.outline := by
      rw [← houtlines]
      exact List.mem_map_of_mem hdecl
    obtain ⟨other, hother, heq⟩ := List.mem_map.1 hmem
    exact ClassDecl.isWellNamed_of_outline_eq heq.symm (hnames other hother)
  have hnew : (({} : Catalog).classes.keys ++ written.map ClassDecl.name).Nodup := by
    rw [← ClassDecl.map_name_outlines, houtlines, ClassDecl.map_name_outlines]
    exact hnodup
  obtain ⟨reloaded, hfiles, hentries⟩ := exists_extended origin written hnew
  refine ⟨reloaded, loads_declare.2 ⟨hwritten, hnew, hfiles, hentries⟩, ?_⟩
  exact Holds.empty.extend hentries

/-- How a catalog resolves the names in the types of a class. -/
def resolution (catalog : Catalog) (decl : ClassDecl) : JavaType → JavaType :=
  JavaType.resolve (catalog.typeParametersInScope decl.name) decl.package catalog.classes.keys

theorem resolveNames_eq (catalog : Catalog) (decl : ClassDecl) :
    catalog.resolveNames decl = decl.mapTypes (catalog.resolution decl) := rfl

theorem types_resolveNames (catalog : Catalog) (decl : ClassDecl) :
    (catalog.resolveNames decl).types = decl.types.map (catalog.resolution decl) :=
  decl.types_mapTypes

/-- A catalog in which classes have the same outlines resolves names in the same way. -/
theorem resolution_of_outlines {reloaded : Catalog} (hcatalog : Holds catalog decls)
    (hreloaded : Holds reloaded written)
    (hperm : (written.map ClassDecl.outline).Perm (decls.map ClassDecl.outline))
    {decl other : ClassDecl} (heq : decl.outline = other.outline) :
    reloaded.resolution decl = catalog.resolution other := by
  have hname : decl.outline.name = other.outline.name := congrArg ClassDecl.name heq
  have hpackage : decl.outline.package = other.outline.package := congrArg ClassDecl.package heq
  change decl.name = other.name at hname
  change decl.package = other.package at hpackage
  have hknown : ∀ name, name ∈ reloaded.classes.keys ↔ name ∈ catalog.classes.keys := by
    intro name
    rw [hreloaded.keys_eq, hcatalog.keys_eq, ← ClassDecl.map_name_outlines written,
      ← ClassDecl.map_name_outlines decls]
    exact (hperm.map ClassDecl.name).mem_iff
  funext type
  rw [resolution, resolution, JavaType.resolve, JavaType.resolve, hname, hpackage,
    typeParametersInScope, typeParametersInScope,
    typeParametersWithin_of_outlines hreloaded hcatalog hperm, JavaType.qualify_congr hknown]

/-- Resolving the names of a class again, after it was written down and read back, changes nothing. -/
theorem resolveNames_of_readsBack {reloaded : Catalog} (hcatalog : Holds catalog decls)
    (hreloaded : Holds reloaded written)
    (hperm : (written.map ClassDecl.outline).Perm (decls.map ClassDecl.outline))
    (hparams : ∀ decl ∈ decls, ∀ param ∈ decl.typeParameterNames, '.' ∉ param.toList)
    {decl again : ClassDecl} (hprintable : ∀ type ∈ decl.types, type.IsPrintable)
    (hdotted : ∀ type ∈ (catalog.resolveNames decl).types, type.HasDottedNames)
    (hread : (catalog.resolveNames decl).ReadsBackAs again) :
    reloaded.resolveNames again = catalog.resolveNames decl := by
  have houtline : again.outline = decl.outline := by
    rw [hread.outline_eq, resolveNames_eq, ClassDecl.outline_mapTypes]
  obtain ⟨read, rfl, hreads⟩ := hread
  rw [resolveNames_eq reloaded, resolution_of_outlines hcatalog hreloaded hperm houtline,
    ClassDecl.mapTypes_mapTypes]
  refine (ClassDecl.mapTypes_congr _ ?_).trans (ClassDecl.mapTypes_id _)
  rw [types_resolveNames] at hdotted hreads ⊢
  intro type htype
  have hreadType := hreads type htype
  have hdottedType := hdotted type htype
  obtain ⟨declared, hdeclared, rfl⟩ := List.mem_map.1 htype
  have hscope : ∀ param ∈ catalog.typeParametersInScope decl.name, '.' ∉ param.toList := by
    intro param hparam
    obtain ⟨owner, howner, hown⟩ := exists_of_mem_typeParametersWithin hcatalog _ hparam
    exact hparams owner howner param hown
  -- The text of the resolved type is read as this type with bare names, which are resolved again.
  have hbare : JavaType.parse (catalog.resolution decl declared).text
      = .ok (catalog.resolution decl declared).unbound :=
    JavaType.parse_text_resolve (hprintable declared hdeclared) hdottedType
  rw [hbare] at hreadType
  rw [Function.comp_apply, ← Except.ok.inj hreadType, id_eq]
  exact JavaType.resolve_unbound hscope declared (hprintable declared hdeclared)

/-- A class whose names are resolved to the same types after it was written down and read back mentions
dotted sequences of identifiers only. -/
theorem hasDottedNames_of_readsBack {reloaded : Catalog} {decl again : ClassDecl}
    (hread : decl.ReadsBackAs again) (hsame : reloaded.resolveNames again = decl) :
    ∀ type ∈ decl.types, type.HasDottedNames := by
  obtain ⟨read, rfl, hreads⟩ := hread
  have htypes : decl.types.map (reloaded.resolution (decl.mapTypes read) ∘ read) = decl.types.map id := by
    have hall := congrArg ClassDecl.types hsame
    rwa [types_resolveNames, ClassDecl.types_mapTypes, List.map_map, ← List.map_id decl.types,
      List.map_map] at hall
  intro type htype
  exact JavaType.hasDottedNames_of_parse_text (hreads type htype) (List.map_inj_left.1 htypes type htype)

/-- Each declaration that was written down is read back as one of those that are loaded again. -/
theorem exists_readsBack_of_mem (h : List.Forall₂ ClassDecl.ReadsBackAs decls written)
    {decl : ClassDecl} (hdecl : decl ∈ decls) : ∃ again ∈ written, decl.ReadsBackAs again := by
  induction h with
  | nil => cases hdecl
  | cons hfirst _ ih =>
    rcases List.mem_cons.1 hdecl with rfl | hdecl
    · exact ⟨_, List.mem_cons_self, hfirst⟩
    · obtain ⟨again, hagain, hread⟩ := ih hdecl
      exact ⟨again, List.mem_cons_of_mem _ hagain, hread⟩

end Reading

/-! ## The class table again -/

/-- The loaded classes with their names resolved, in the order in which the class table of a platform
lists them. -/
def loadedClasses (catalog : Catalog) (platform : Platform) : List ClassDecl :=
  (catalog.toTable platform).listed catalog.resolvedClasses

section Tables

variable {catalog : Catalog} {decls : List ClassDecl} (h : Holds catalog decls) (platform : Platform)

include h

theorem outlines_resolvedClasses :
    catalog.resolvedClasses.map ClassDecl.outline = decls.map ClassDecl.outline := by
  rw [h.resolvedClasses_eq, List.map_map]
  exact List.map_congr_left fun decl _ => ClassDecl.outline_mapTypes decl _

theorem names_resolvedClasses :
    catalog.resolvedClasses.map ClassDecl.name = decls.map ClassDecl.name := by
  rw [← ClassDecl.map_name_outlines, outlines_resolvedClasses h, ClassDecl.map_name_outlines]

theorem names_resolvedClasses_nodup : (catalog.resolvedClasses.map ClassDecl.name).Nodup := by
  rw [names_resolvedClasses h]
  exact h.names_nodup

/-- The class table finds each loaded class under its name. -/
theorem find?_toTable_of_mem {decl : ClassDecl} (hdecl : decl ∈ catalog.resolvedClasses) :
    (catalog.toTable platform).find? decl.name = some decl :=
  ClassTable.find?_insertAll_of_mem (names_resolvedClasses_nodup h) hdecl _

theorem loadedClasses_perm : (catalog.loadedClasses platform).Perm catalog.resolvedClasses :=
  ClassTable.listed_perm (names_resolvedClasses_nodup h) _

theorem outlines_loadedClasses_perm :
    ((catalog.loadedClasses platform).map ClassDecl.outline).Perm (decls.map ClassDecl.outline) := by
  rw [← outlines_resolvedClasses h]
  exact (loadedClasses_perm h platform).map _

/-- The table of the loaded classes in the order of the class table is the class table. -/
theorem insertAll_loadedClasses :
    (ClassTable.ofPlatform platform).insertAll (catalog.loadedClasses platform)
      = catalog.toTable platform :=
  ClassTable.insertAll_listed (names_resolvedClasses_nodup h) _

end Tables

/-- What is read back of the loaded classes can be loaded into a fresh catalog. -/
theorem exists_reloaded {catalog : Catalog} (hgathered : Gathered catalog) (library : Library)
    (origin : String) (platform : Platform) {written : List ClassDecl}
    (hread : List.Forall₂ ClassDecl.ReadsBackAs (catalog.loadedClasses platform) written) :
    ∃ reloaded, run library.files library.includes {} (tasksOf { classes := written } origin)
        = (reloaded, none) ∧ Holds reloaded written := by
  have hperm := outlines_loadedClasses_perm hgathered.holds platform
  apply exists_loads_of_readsBack _ _ _ hread
  · intro decl hdecl
    obtain ⟨declared, hdeclared, heq⟩ :=
      List.mem_map.1 (hperm.mem_iff.1 (List.mem_map_of_mem hdecl))
    exact ClassDecl.isWellNamed_of_outline_eq heq.symm (hgathered.wellNamed hdeclared)
  · have hnames := hperm.map ClassDecl.name
    rw [ClassDecl.map_name_outlines, ClassDecl.map_name_outlines] at hnames
    exact hnames.nodup_iff.2 hgathered.holds.names_nodup

/-- **Reloading.** Let a catalog be filled by loading models, without dots in the names of type
parameters. The loaded classes of its class table can be written down with each type as its text, read
back and loaded into a fresh catalog that has the same class table, if and only if all classes that
their types mention are named by dotted sequences of identifiers. -/
theorem reload_eq_iff {catalog : Catalog} (hgathered : Gathered catalog)
    (hparams : ∀ decl ∈ catalog.declarations, ∀ param ∈ decl.typeParameterNames, '.' ∉ param.toList)
    (library : Library) (origin : String) (platform : Platform) :
    (∃ written,
      List.Forall₂ ClassDecl.ReadsBackAs (catalog.loadedClasses platform) written ∧
        ∃ reloaded, run library.files library.includes {} (tasksOf { classes := written } origin)
            = (reloaded, none) ∧
          reloaded.toTable platform = catalog.toTable platform) ↔
      ∀ decl ∈ catalog.loadedClasses platform, ∀ type ∈ decl.types, type.HasDottedNames := by
  have hholds := hgathered.holds
  have hloaded := loadedClasses_perm hholds platform
  constructor
  · rintro ⟨written, hread, reloaded, hrun, htable⟩ decl hdecl
    obtain ⟨same, hsame, hreloaded⟩ := exists_reloaded hgathered library origin platform hread
    obtain rfl : same = reloaded := congrArg Prod.fst (hsame.symm.trans hrun)
    obtain ⟨again, hagain, hdeclAgain⟩ := exists_readsBack_of_mem hread hdecl
    have hname : (same.resolveNames again).name = decl.name := hdeclAgain.name_eq
    have hfind := find?_toTable_of_mem hholds platform (hloaded.mem_iff.1 hdecl)
    have hmem : same.resolveNames again ∈ same.resolvedClasses := by
      rw [hreloaded.resolvedClasses_eq]
      exact List.mem_map_of_mem hagain
    rw [← htable, ← hname, find?_toTable_of_mem hreloaded platform hmem] at hfind
    exact hasDottedNames_of_readsBack hdeclAgain (Option.some.inj hfind)
  · intro hdotted
    have hresolved : ∀ decl ∈ catalog.loadedClasses platform,
        ∃ declared ∈ catalog.declarations, catalog.resolveNames declared = decl := by
      intro decl hdecl
      rw [hloaded.mem_iff, hholds.resolvedClasses_eq] at hdecl
      exact List.mem_map.1 hdecl
    have hread : List.Forall₂ ClassDecl.ReadsBackAs (catalog.loadedClasses platform)
        ((catalog.loadedClasses platform).map (ClassDecl.mapTypes JavaType.unbound)) := by
      rw [List.forall₂_map_right_iff, List.forall₂_same]
      intro decl hdecl
      obtain ⟨declared, hdeclared, rfl⟩ := hresolved decl hdecl
      refine ⟨JavaType.unbound, rfl, fun type htype => ?_⟩
      have htypeDotted := hdotted _ hdecl type htype
      rw [types_resolveNames] at htype
      obtain ⟨source, hsource, rfl⟩ := List.mem_map.1 htype
      exact JavaType.parse_text_resolve (hgathered.isPrintable hdeclared source hsource) htypeDotted
    obtain ⟨reloaded, hrun, hreloaded⟩ := exists_reloaded hgathered library origin platform hread
    refine ⟨_, hread, reloaded, hrun, ?_⟩
    have hperm := outlines_loadedClasses_perm hholds platform
    rw [← outlines_of_readsBack hread] at hperm
    have hagain : reloaded.resolvedClasses = catalog.loadedClasses platform := by
      rw [hreloaded.resolvedClasses_eq, List.map_map]
      refine (List.map_congr_left fun decl hdecl => ?_).trans (List.map_id _)
      obtain ⟨declared, hdeclared, rfl⟩ := hresolved decl hdecl
      have hback := List.forall₂_same.1 (List.forall₂_map_right_iff.1 hread) _ hdecl
      exact resolveNames_of_readsBack hholds hreloaded hperm hparams
        (hgathered.isPrintable hdeclared) (hdotted _ hdecl) hback
    rw [toTable, hagain, insertAll_loadedClasses hholds]

/-- A nested class that names the type parameter of the class around it, and a class that replaces a
built-in one. -/
def nestedDocument : Document where
  contents := "classes:\n- name: a.Box\n  type-parameters:\n  - name: T\n- name: a.Box.Lid\n" ++
    "  package: a\n  superclass: Box<T>\n  interfaces: [Comparable<String>]\n" ++
      "- name: java.lang.Comparable\n  kind: interface\n"
  path := "box.yaml"

def nestedDecls : List ClassDecl :=
  [{ name := "a.Box", typeParameters := [{ name := "T" }] },
    { name := "a.Box.Lid", package? := some "a",
      superclass? := some (.declared "Box" [.named "T"]),
      interfaces := [.declared "Comparable" [.named "String"]] },
    { name := "java.lang.Comparable", kind := .interfaceKind }]

/-- The class that replaces a built-in one comes first when the classes are loaded again. -/
theorem reload_nested :
    ∃ catalog, loadText { tree := .empty } {} nestedDocument.contents nestedDocument.path
        = (catalog, none) ∧
      (catalog.loadedClasses {}).map ClassDecl.name = ["java.lang.Comparable", "a.Box", "a.Box.Lid"] ∧
      ∃ written, List.Forall₂ ClassDecl.ReadsBackAs (catalog.loadedClasses {}) written ∧
        ∃ reloaded, run (Library.files { tree := .empty }) [] {} (tasksOf { classes := written } "again")
            = (reloaded, none) ∧ reloaded.toTable {} = catalog.toTable {} := by
  let catalog : Catalog :=
    { classes := ⟨entriesFrom nestedDocument.path nestedDecls, by decide⟩ }
  have hdeclares : nestedDocument.Declares nestedDecls :=
    ⟨{ classes := nestedDecls }, by decide +kernel, rfl, rfl⟩
  have hnames : ∀ decl ∈ nestedDecls, decl.IsWellNamed := by
    simp [nestedDecls, ClassDecl.IsWellNamed]
    exact ⟨"Box.Lid", by decide⟩
  have hload : loadText { tree := .empty } {} nestedDocument.contents nestedDocument.path
      = (catalog, none) :=
    (loadText_eq_none_iff hdeclares {} catalog).2 ⟨hnames, by decide, rfl, rfl⟩
  have hgathered : Gathered catalog := by
    have h := Gathered.fresh.text { tree := .empty } nestedDocument.contents nestedDocument.path
    rwa [hload] at h
  have hparams : ∀ decl ∈ catalog.declarations, ∀ param ∈ decl.typeParameterNames,
      '.' ∉ param.toList := by
    decide
  have hdotted : ∀ decl ∈ catalog.loadedClasses {}, ∀ type ∈ decl.types, type.HasDottedNames := by
    decide +kernel
  exact ⟨catalog, hload, by decide +kernel,
    (reload_eq_iff hgathered hparams { tree := .empty } "again" {}).2 hdotted⟩

/-- A package that is named by what is no sequence of identifiers, and a name that it completes. -/
def hyphenDocument : Document where
  contents := "classes:\n- name: com.my-pkg.Base\n- name: com.my-pkg.Main\n  superclass: Base\n"
  path := "my.yaml"

def hyphenDecls : List ClassDecl :=
  [{ name := "com.my-pkg.Base" }, { name := "com.my-pkg.Main", superclass? := some (.named "Base") }]

/-- The classes of such a package are loaded, but the completed name has a text that is no type, so they
cannot be read back. -/
theorem not_reload_hyphen :
    ∃ catalog, loadText { tree := .empty } {} hyphenDocument.contents hyphenDocument.path
        = (catalog, none) ∧
      (∀ decl ∈ catalog.declarations, decl.typeParameterNames = []) ∧
      ¬ ∃ written, List.Forall₂ ClassDecl.ReadsBackAs (catalog.loadedClasses {}) written ∧
        ∃ reloaded, run (Library.files { tree := .empty }) [] {} (tasksOf { classes := written } "again")
            = (reloaded, none) ∧ reloaded.toTable {} = catalog.toTable {} := by
  let catalog : Catalog :=
    { classes := ⟨entriesFrom hyphenDocument.path hyphenDecls, by decide⟩ }
  have hdeclares : hyphenDocument.Declares hyphenDecls :=
    ⟨{ classes := hyphenDecls }, by decide +kernel, rfl, rfl⟩
  have hload : loadText { tree := .empty } {} hyphenDocument.contents hyphenDocument.path
      = (catalog, none) :=
    (loadText_eq_none_iff hdeclares {} catalog).2
      ⟨by simp [hyphenDecls, ClassDecl.IsWellNamed], by decide, rfl, rfl⟩
  refine ⟨catalog, hload, by decide, ?_⟩
  rintro ⟨written, hread, -⟩
  have hmain : { name := "com.my-pkg.Main", superclass? := some (.named "com.my-pkg.Base") }
      ∈ catalog.loadedClasses {} := by
    decide +kernel
  obtain ⟨again, -, read, -, hparse⟩ := exists_readsBack_of_mem hread hmain
  have hsuperclass := hparse (.named "com.my-pkg.Base") List.mem_cons_self
  have hfault : JavaType.parse "com.my-pkg.Base" = .error ⟨"com.my-pkg.Base", .trailingInput 6⟩ := by
    decide +kernel
  rw [show (JavaType.named "com.my-pkg.Base").text = "com.my-pkg.Base" from rfl, hfault] at hsuperclass
  cases hsuperclass

end Catalog

end BundleBuilder
