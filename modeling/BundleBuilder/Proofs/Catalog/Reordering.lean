import BundleBuilder.Proofs.Catalog.ImportClosure
import BundleBuilder.Proofs.ClassDecl.Types
import BundleBuilder.Proofs.Generation.Agreement

/-!
# The order of classes

The order in which classes are given to a catalog does not matter. Documents without imports may be
reordered, and so may the classes in them and across them: the reordered documents load as well, and a
run over the class table that they give differs at most in the order of its diagnostics
(`run_of_reordered`).

A catalog that was filled from such documents holds their classes, each under its name. Names in types
are resolved by the names that the catalog knows and by the type parameters in scope, for which only the
outlines of the classes matter. So the resolved classes of two catalogs that hold the same classes are
the same up to their order; and class tables with the same classes agree.
-/

set_option autoImplicit false

namespace BundleBuilder

open Table

namespace JavaType

/-- It matters which names are known, but not how they are listed. -/
theorem qualify_congr {known others : List String} (h : ∀ name, name ∈ known ↔ name ∈ others)
    (package : String) (type : JavaType) : type.qualify package known = type.qualify package others := by
  have hname : qualifyName package known = qualifyName package others := by
    funext name
    simp only [qualifyName, h]
  rw [qualify, qualify, hname]

end JavaType

namespace Catalog

/-! ## What a catalog holds -/

/-- A catalog holds classes, each under its name. -/
def Holds (catalog : Catalog) (decls : List ClassDecl) : Prop :=
  (catalog.classes.entries.map fun entry => (entry.1, entry.2.decl))
    = decls.map fun decl => (decl.name, decl)

namespace Holds

variable {catalog next : Catalog} {decls more : List ClassDecl}

theorem empty : Holds {} [] := rfl

theorem keys_eq (h : Holds catalog decls) : catalog.classes.keys = decls.map ClassDecl.name := by
  have hkeys := congrArg (List.map Prod.fst) h
  simp only [List.map_map, Function.comp_def] at hkeys
  exact hkeys

theorem names_nodup (h : Holds catalog decls) : (decls.map ClassDecl.name).Nodup := by
  rw [← h.keys_eq]
  exact catalog.classes.keys_nodup

theorem extend (h : Holds catalog decls) {origin : String}
    (hentries : next.classes.entries = catalog.classes.entries ++ entriesFrom origin more) :
    Holds next (decls ++ more) := by
  rw [Holds, hentries, List.map_append, List.map_append, h, entriesFrom, List.map_map]
  rfl

/-- The class that is found under a name is the one that has it. -/
theorem find?_eq_some_iff (h : Holds catalog decls) (name : String) (decl : ClassDecl) :
    (catalog.classes.find? name).map LoadedClass.decl = some decl ↔
      decl ∈ decls ∧ decl.name = name := by
  have hentry : (name, decl) ∈ (catalog.classes.entries.map fun entry => (entry.1, entry.2.decl)) ↔
      (catalog.classes.find? name).map LoadedClass.decl = some decl := by
    rw [List.mem_map, Option.map_eq_some_iff]
    constructor
    · rintro ⟨⟨key, loaded⟩, hmem, heq⟩
      cases heq
      exact ⟨loaded, (catalog.classes.mem_entries_iff _ _).1 hmem, rfl⟩
    · rintro ⟨loaded, hfind, rfl⟩
      exact ⟨(name, loaded), (catalog.classes.mem_entries_iff _ _).2 hfind, rfl⟩
  rw [← hentry, h, List.mem_map]
  constructor
  · rintro ⟨other, hmem, heq⟩
    cases heq
    exact ⟨hmem, rfl⟩
  · rintro ⟨hmem, rfl⟩
    exact ⟨decl, hmem, rfl⟩

theorem resolvedClasses_eq (h : Holds catalog decls) :
    catalog.resolvedClasses = decls.map catalog.resolveNames := by
  have hdecls := congrArg (List.map fun entry : String × ClassDecl => catalog.resolveNames entry.2) h
  simpa only [resolvedClasses, InsertionTable.values, List.map_map, Function.comp_def] using hdecls

end Holds

/-! ## Resolving names -/

section Resolving

variable {first second : Catalog} {decls others : List ClassDecl}

theorem typeParametersWithin_succ (catalog : Catalog) (levels : Nat) (name : String) :
    catalog.typeParametersWithin (levels + 1) name
      = match (catalog.classes.find? name).map LoadedClass.decl with
        | none => []
        | some decl =>
          decl.typeParameterNames ++
            match decl.enclosingClass? with
            | none => []
            | some outer => catalog.typeParametersWithin levels outer := by
  rw [typeParametersWithin]
  cases catalog.classes.find? name <;> rfl

/-- Under each name a catalog finds the outline that has it. -/
theorem find?_outline_eq_some_iff (h : Holds first decls) (name : String) (outline : ClassDecl) :
    (first.classes.find? name).map (fun loaded => loaded.decl.outline) = some outline ↔
      outline ∈ decls.map ClassDecl.outline ∧ outline.name = name := by
  have hfind := h.find?_eq_some_iff name
  rw [List.mem_map]
  constructor
  · intro hsome
    obtain ⟨loaded, hloaded, rfl⟩ := Option.map_eq_some_iff.1 hsome
    obtain ⟨hmem, hname⟩ := (hfind loaded.decl).1 (by rw [hloaded]; rfl)
    exact ⟨⟨loaded.decl, hmem, rfl⟩, hname⟩
  · rintro ⟨⟨decl, hmem, rfl⟩, hname⟩
    obtain ⟨loaded, hloaded, rfl⟩ := Option.map_eq_some_iff.1 ((hfind decl).2 ⟨hmem, hname⟩)
    rw [hloaded]
    rfl

theorem typeParametersWithin_succ_outline (catalog : Catalog) (levels : Nat) (name : String) :
    catalog.typeParametersWithin (levels + 1) name
      = match (catalog.classes.find? name).map fun loaded => loaded.decl.outline with
        | none => []
        | some outline =>
          outline.typeParameterNames ++
            match outline.enclosingClass? with
            | none => []
            | some outer => catalog.typeParametersWithin levels outer := by
  rw [typeParametersWithin]
  cases catalog.classes.find? name with
  | none => rfl
  | some loaded =>
    have hparams : loaded.decl.outline.typeParameterNames = loaded.decl.typeParameterNames :=
      loaded.decl.typeParameterNames_mapTypes
    simp only [Option.map_some, hparams]
    rfl

/-- Only the outlines of classes decide which type parameters are in scope. -/
theorem typeParametersWithin_of_outlines (hfirst : Holds first decls) (hsecond : Holds second others)
    (hperm : (decls.map ClassDecl.outline).Perm (others.map ClassDecl.outline)) (levels : Nat) :
    ∀ name : String,
      first.typeParametersWithin levels name = second.typeParametersWithin levels name := by
  induction levels with
  | zero =>
    intro name
    rfl
  | succ levels ih =>
    intro name
    have hfind : (first.classes.find? name).map (fun loaded => loaded.decl.outline)
        = (second.classes.find? name).map fun loaded => loaded.decl.outline := by
      apply Option.ext
      intro outline
      rw [find?_outline_eq_some_iff hfirst, find?_outline_eq_some_iff hsecond, hperm.mem_iff]
    rw [typeParametersWithin_succ_outline, typeParametersWithin_succ_outline, hfind]
    simp only [ih]

/-- Names are resolved in the same way. -/
theorem resolveNames_of_perm (hfirst : Holds first decls) (hsecond : Holds second others)
    (hperm : decls.Perm others) : first.resolveNames = second.resolveNames := by
  have hknown : ∀ name, name ∈ first.classes.keys ↔ name ∈ second.classes.keys := by
    intro name
    rw [hfirst.keys_eq, hsecond.keys_eq]
    exact (hperm.map ClassDecl.name).mem_iff
  funext decl
  simp only [resolveNames, typeParametersInScope,
    typeParametersWithin_of_outlines hfirst hsecond (hperm.map _), JavaType.qualify_congr hknown]

theorem name_resolveNames (catalog : Catalog) (decl : ClassDecl) :
    (catalog.resolveNames decl).name = decl.name := rfl

/-- The class tables agree. -/
theorem toTable_agree (hfirst : Holds first decls) (hsecond : Holds second others)
    (hperm : decls.Perm others) (platform : Platform) :
    (first.toTable platform).Agree (second.toTable platform) := by
  have hresolved : first.resolvedClasses.Perm second.resolvedClasses := by
    rw [hfirst.resolvedClasses_eq, hsecond.resolvedClasses_eq,
      resolveNames_of_perm hfirst hsecond hperm]
    exact hperm.map _
  have hnodup : (first.resolvedClasses.map ClassDecl.name).Nodup := by
    have hnames : ClassDecl.name ∘ first.resolveNames = ClassDecl.name :=
      funext (name_resolveNames first)
    rw [hfirst.resolvedClasses_eq, List.map_map, hnames]
    exact hfirst.names_nodup
  exact ClassTable.Agree.insertAll_perm hresolved (.refl _) hnodup

end Resolving

/-! ## Documents -/

/-- A text with the path at which it counts as read. -/
structure Document where
  contents : String
  path : String

/-- A document is a model without imports that declares classes. -/
def Document.Declares (document : Document) (decls : List ClassDecl) : Prop :=
  ∃ model, ModelFile.read document.contents = .ok model ∧ model.imports = [] ∧ model.classes = decls

/-- Loads documents one after the other up to the first error. -/
def loadTexts (library : Library) (catalog : Catalog) : List Document → Catalog × Option LoadError
  | [] => (catalog, none)
  | document :: documents =>
    match loadText library catalog document.contents document.path with
    | (catalog, some error) => (catalog, some error)
    | (catalog, none) => loadTexts library catalog documents

section Documents

variable {library : Library}

/-- A document without imports is loaded by adding its classes. -/
theorem loadText_eq_none_iff {document : Document} {decls : List ClassDecl}
    (h : document.Declares decls) (before after : Catalog) :
    loadText library before document.contents document.path = (after, none) ↔
      (∀ decl ∈ decls, decl.IsWellNamed) ∧
        (before.classes.keys ++ decls.map ClassDecl.name).Nodup ∧
          after.files = before.files ∧
            after.classes.entries = before.classes.entries ++ entriesFrom document.path decls := by
  obtain ⟨model, hread, himports, rfl⟩ := h
  rw [← @loads_declare library.files library.includes, Loads, loadText, hread]
  simp only [tasksOf, himports, List.map_nil, List.nil_append]

theorem loadTexts_cons_eq_none_iff (document : Document) (documents : List Document)
    (before after : Catalog) :
    loadTexts library before (document :: documents) = (after, none) ↔
      ∃ middle, loadText library before document.contents document.path = (middle, none) ∧
        loadTexts library middle documents = (after, none) := by
  rw [loadTexts]
  rcases loadText library before document.contents document.path with ⟨middle, _ | error⟩
  · simp
  · simp

/-- What documents declare is named well and held by the catalog into which they were loaded. -/
theorem holds_of_loadTexts {documents : List Document} {groups : List (List ClassDecl)}
    (h : List.Forall₂ Document.Declares documents groups) :
    ∀ {before after : Catalog} {decls : List ClassDecl}, Holds before decls →
      loadTexts library before documents = (after, none) →
      Holds after (decls ++ groups.flatten) ∧ ∀ decl ∈ groups.flatten, decl.IsWellNamed := by
  induction h with
  | nil =>
    intro before after decls hholds hloads
    cases hloads
    simpa using hholds
  | @cons document group documents groups hdeclares _ ih =>
    intro before after decls hholds hloads
    obtain ⟨middle, hfirst, hrest⟩ := (loadTexts_cons_eq_none_iff _ _ _ _).1 hloads
    obtain ⟨hnames, -, -, hentries⟩ := (loadText_eq_none_iff hdeclares _ _).1 hfirst
    obtain ⟨hafter, hothers⟩ := ih (hholds.extend hentries) hrest
    rw [List.flatten_cons, ← List.append_assoc]
    exact ⟨hafter, List.forall_mem_append.2 ⟨hnames, hothers⟩⟩

/-- Documents are loaded if their classes are named well and no name is taken. -/
theorem exists_loadTexts (library : Library) {documents : List Document} {groups : List (List ClassDecl)}
    (h : List.Forall₂ Document.Declares documents groups) :
    ∀ {before : Catalog} {decls : List ClassDecl}, Holds before decls →
      (∀ decl ∈ groups.flatten, decl.IsWellNamed) →
      ((decls ++ groups.flatten).map ClassDecl.name).Nodup →
      ∃ after, loadTexts library before documents = (after, none) := by
  induction h with
  | nil =>
    intro before decls _ _ _
    exact ⟨before, rfl⟩
  | @cons document group documents groups hdeclares _ ih =>
    intro before decls hholds hnames hnodup
    rw [List.flatten_cons] at hnames
    rw [List.flatten_cons, ← List.append_assoc] at hnodup
    obtain ⟨hfirst, hrest⟩ := List.forall_mem_append.1 hnames
    have hnew : (before.classes.keys ++ group.map ClassDecl.name).Nodup := by
      rw [hholds.keys_eq, ← List.map_append]
      rw [List.map_append] at hnodup
      exact (List.nodup_append.1 hnodup).1
    obtain ⟨middle, hfiles, hentries⟩ := exists_extended document.path group hnew
    obtain ⟨after, hafter⟩ := ih (hholds.extend hentries) hrest hnodup
    refine ⟨after, (loadTexts_cons_eq_none_iff _ _ _ _).2 ⟨middle, ?_, hafter⟩⟩
    exact (loadText_eq_none_iff hdeclares _ _).2 ⟨hfirst, hnew, hfiles, hentries⟩

end Documents

/-- **Independence of order.** Documents without imports that load without an error may be reordered,
and so may the classes in them and across them: the reordered documents load without an error, and for
all options the runs over both class tables have the same units, controllers and routes, while their
diagnostics differ at most in their order. -/
theorem run_of_reordered (library : Library) {documents others : List Document}
    {groups otherGroups : List (List ClassDecl)} {catalog : Catalog}
    (hdocuments : List.Forall₂ Document.Declares documents groups)
    (hothers : List.Forall₂ Document.Declares others otherGroups)
    (hperm : groups.flatten.Perm otherGroups.flatten)
    (hloads : loadTexts library {} documents = (catalog, none)) :
    ∃ reordered, loadTexts library {} others = (reordered, none) ∧ ∀ options : Options,
      (Generation.run (catalog.toTable options.platform) options).EqualUpToOrder
        (Generation.run (reordered.toTable options.platform) options) := by
  obtain ⟨hholds, hnames⟩ := holds_of_loadTexts hdocuments .empty hloads
  rw [List.nil_append] at hholds
  have hnodup : ((([] : List ClassDecl) ++ otherGroups.flatten).map ClassDecl.name).Nodup :=
    (hperm.map ClassDecl.name).nodup_iff.1 hholds.names_nodup
  obtain ⟨reordered, hreordered⟩ := exists_loadTexts library hothers .empty
    (fun decl hdecl => hnames decl (hperm.mem_iff.2 hdecl)) hnodup
  obtain ⟨hreorderedHolds, -⟩ := holds_of_loadTexts hothers .empty hreordered
  refine ⟨reordered, hreordered, ?_⟩
  intro options
  exact (toTable_agree hholds hreorderedHolds hperm options.platform).run_eq options

/-- A document with a class and its superclass, and two documents in which the subclass comes first and
names a class that is not loaded yet. -/
theorem run_of_reordered_superclass :
    ∃ catalog reordered,
      loadTexts { tree := .empty } {}
          [⟨"classes:\n- name: a.Base\n- name: a.Main\n  superclass: Base\n", "all.yaml"⟩]
        = (catalog, none) ∧
      loadTexts { tree := .empty } {}
          [⟨"classes:\n- name: a.Main\n  superclass: Base\n", "main.yaml"⟩,
            ⟨"classes:\n- name: a.Base\n", "base.yaml"⟩]
        = (reordered, none) ∧
      ∀ options : Options,
        (Generation.run (catalog.toTable options.platform) options).EqualUpToOrder
          (Generation.run (reordered.toTable options.platform) options) := by
  have hall : Document.Declares
      ⟨"classes:\n- name: a.Base\n- name: a.Main\n  superclass: Base\n", "all.yaml"⟩
      [{ name := "a.Base" }, { name := "a.Main", superclass? := some (.named "Base") }] :=
    ⟨{ classes := [{ name := "a.Base" }, { name := "a.Main", superclass? := some (.named "Base") }] },
      by decide +kernel, rfl, rfl⟩
  have hmain : Document.Declares
      ⟨"classes:\n- name: a.Main\n  superclass: Base\n", "main.yaml"⟩
      [{ name := "a.Main", superclass? := some (.named "Base") }] :=
    ⟨{ classes := [{ name := "a.Main", superclass? := some (.named "Base") }] },
      by decide +kernel, rfl, rfl⟩
  have hbase : Document.Declares ⟨"classes:\n- name: a.Base\n", "base.yaml"⟩ [{ name := "a.Base" }] :=
    ⟨{ classes := [{ name := "a.Base" }] }, by decide +kernel, rfl, rfl⟩
  obtain ⟨catalog, hcatalog⟩ := exists_loadTexts { tree := .empty }
    (.cons hall .nil) .empty (by simp [ClassDecl.IsWellNamed]) (by simp)
  obtain ⟨reordered, hreordered, hruns⟩ := run_of_reordered { tree := .empty } (.cons hall .nil)
    (.cons hmain (.cons hbase .nil)) (.swap _ _ []) hcatalog
  exact ⟨catalog, reordered, hcatalog, hreordered, hruns⟩

end Catalog

end BundleBuilder
