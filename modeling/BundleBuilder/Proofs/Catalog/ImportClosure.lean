import BundleBuilder.Proofs.Catalog.Additions
import BundleBuilder.Proofs.Catalog.Postorder
import BundleBuilder.Proofs.Files.Canonical
import Mathlib.Data.List.Forall2
import Mathlib.Data.List.Nodup
import Mathlib.Data.List.Pairwise

/-!
# The closure under imports

Loading a file loads the files that it reaches through imports, each of them once, in depth-first
postorder: the classes of a file stand behind those of all files that were opened for its imports. It
succeeds exactly if all these files are sound and no class name is declared twice among them
(`loadFrom_import_closure`). The import graph may have any shape; a file that is being loaded counts
as seen, so circles do no harm.

The proof relates the tasks of loading to the postorder. Each kind of task has a rule that says when it
succeeds and with which catalog; from these rules, a successful run lists the files that it opened in
postorder (`Loads.exists_postorder`), and along a postorder of sound files without repeated class names
a run succeeds (`loads_of_postorder`).
-/

set_option autoImplicit false

namespace BundleBuilder

open Table Files

namespace Catalog

variable (files : FileSystem) (includes : List String)

/-! ## The import graph -/

/-- The model that the file at a canonical path contains. -/
def IsModelAt (path : String) (model : ModelFile) : Prop :=
  ∃ contents, files.contents? path = some contents ∧ ModelFile.read contents = .ok model

/-- An import of a file resolves to the canonical path of the first of its candidates that exists: the
one next to the file, then those in the include directories in their order. -/
def Resolves (path reference target : String) : Prop :=
  ∃ before candidate after, importCandidates includes path reference = before ++ candidate :: after ∧
    (∀ earlier ∈ before, files.canonical? earlier = none) ∧
      files.canonical? candidate = some target

/-- A file imports the files that its imports resolve to. -/
def Imports (path target : String) : Prop :=
  ∃ model, IsModelAt files path model ∧
    ∃ reference ∈ model.imports, Resolves files includes path reference target

/-- All files that a file imports, in the order of its imports. -/
def ImportsAll (path : String) (targets : List String) : Prop :=
  ∃ model, IsModelAt files path model ∧
    List.Forall₂ (Resolves files includes path) model.imports targets

/-- A file is reached from another through imports. -/
def Reaches (start path : String) : Prop :=
  Relation.ReflTransGen (Imports files includes) start path

/-- A file is sound if it can be read, all its imports resolve and all its classes are named well. -/
def IsSound (path : String) : Prop :=
  ∃ model, IsModelAt files path model ∧
    (∀ reference ∈ model.imports, ∃ target, Resolves files includes path reference target) ∧
      ∀ decl ∈ model.classes, decl.IsWellNamed

/-- The classes of the model in a file. -/
def classesAt (path : String) : List ClassDecl :=
  match files.contents? path with
  | none => []
  | some contents =>
    match ModelFile.read contents with
    | .error _ => []
    | .ok model => model.classes

/-- The names of the classes of a file, in their order. -/
def namesAt (path : String) : List String := (classesAt files path).map ClassDecl.name

/-- The entries that a catalog has for the classes of a file. -/
def entriesAt (path : String) : List (String × LoadedClass) :=
  entriesFrom path (classesAt files path)

/-- No class name is declared twice among the files reached from a file. -/
structure DeclaresOnce (root : String) : Prop where
  within : ∀ path, Reaches files includes root path → (namesAt files path).Nodup
  across : ∀ path other, Reaches files includes root path → Reaches files includes root other →
    path ≠ other → ∀ name ∈ namesAt files path, name ∉ namesAt files other

variable {files includes}

theorem IsModelAt.classesAt_eq {path : String} {model : ModelFile} (h : IsModelAt files path model) :
    classesAt files path = model.classes := by
  obtain ⟨contents, hcontents, hread⟩ := h
  rw [classesAt, hcontents]
  simp only [hread]

theorem IsModelAt.unique {path : String} {model other : ModelFile} (h : IsModelAt files path model)
    (hother : IsModelAt files path other) : model = other := by
  obtain ⟨contents, hcontents, hread⟩ := h
  obtain ⟨_, hsame, hreadOther⟩ := hother
  rw [hcontents] at hsame
  cases hsame
  rw [hread] at hreadOther
  cases hreadOther
  rfl

theorem locateImport?_eq_some_iff {path reference target : String} :
    locateImport? files includes path reference = some target ↔
      Resolves files includes path reference target := by
  rw [locateImport?, List.findSome?_eq_some_iff, Resolves]
  grind

theorem Resolves.unique {path reference target other : String}
    (h : Resolves files includes path reference target)
    (hother : Resolves files includes path reference other) : target = other := by
  rw [← locateImport?_eq_some_iff] at h hother
  rw [h] at hother
  exact Option.some.inj hother

/-- What the imports of a file resolve to, one after the other, is all that they resolve to. -/
theorem mem_iff_of_resolves {path : String} {references targets : List String}
    (h : List.Forall₂ (Resolves files includes path) references targets) (target : String) :
    (∃ reference ∈ references, Resolves files includes path reference target) ↔ target ∈ targets := by
  induction h with
  | nil => simp
  | @cons reference first _ _ hfirst _ ih =>
    have hsame : Resolves files includes path reference target ↔ target = first := by
      constructor
      · intro hresolves
        exact hresolves.unique hfirst
      · rintro rfl
        exact hfirst
    simp only [List.mem_cons, or_and_right, exists_or, exists_eq_left, hsame, ih]

/-- A file has one list of imported files. -/
theorem ImportsAll.unique (path : String) (targets others : List String)
    (h : ImportsAll files includes path targets) (hother : ImportsAll files includes path others) :
    targets = others := by
  obtain ⟨model, hmodel, hall⟩ := h
  obtain ⟨_, hsame, hallOthers⟩ := hother
  cases hmodel.unique hsame
  clear hsame hmodel
  generalize model.imports = references at hall hallOthers
  induction hall generalizing others with
  | nil =>
    cases hallOthers
    rfl
  | cons hfirst _ ih =>
    cases hallOthers with
    | cons hother hrest => rw [hfirst.unique hother, ih _ hrest]

/-- A file imports those that are in its list of imported files. -/
theorem ImportsAll.imports_iff (path : String) (targets : List String)
    (h : ImportsAll files includes path targets) (target : String) :
    Imports files includes path target ↔ target ∈ targets := by
  obtain ⟨model, hmodel, hall⟩ := h
  rw [← mem_iff_of_resolves hall target]
  constructor
  · rintro ⟨_, hsame, hresolves⟩
    cases hmodel.unique hsame
    exact hresolves
  · intro hresolves
    exact ⟨model, hmodel, hresolves⟩

theorem IsSound.wellNamed {path : String} (h : IsSound files includes path) :
    ∀ decl ∈ classesAt files path, decl.IsWellNamed := by
  obtain ⟨model, hmodel, -, hnames⟩ := h
  rw [hmodel.classesAt_eq]
  exact hnames

/-- A sound file has a list of imported files. -/
theorem IsSound.exists_importsAll {path : String} (h : IsSound files includes path) :
    ∃ targets, ImportsAll files includes path targets := by
  obtain ⟨model, hmodel, hresolves, -⟩ := h
  have hall : ∃ targets, List.Forall₂ (Resolves files includes path) model.imports targets := by
    generalize model.imports = references at hresolves
    induction references with
    | nil => exact ⟨[], .nil⟩
    | cons reference references ih =>
      obtain ⟨⟨target, htarget⟩, hrest⟩ := List.forall_mem_cons.1 hresolves
      obtain ⟨targets, htargets⟩ := ih hrest
      exact ⟨target :: targets, .cons htarget htargets⟩
  obtain ⟨targets, htargets⟩ := hall
  exact ⟨targets, model, hmodel, htargets⟩

/-- A file is sound if all its imports resolve and its classes are named well. -/
theorem ImportsAll.isSound {path : String} {targets : List String}
    (h : ImportsAll files includes path targets)
    (hnames : ∀ decl ∈ classesAt files path, decl.IsWellNamed) : IsSound files includes path := by
  obtain ⟨model, hmodel, hall⟩ := h
  rw [hmodel.classesAt_eq] at hnames
  refine ⟨model, hmodel, ?_, hnames⟩
  generalize model.imports = references at hall
  induction hall with
  | nil => simp
  | cons hfirst _ ih => exact List.forall_mem_cons.2 ⟨⟨_, hfirst⟩, ih⟩

/-! ## When tasks succeed -/

theorem run_follow (catalog : Catalog) (path origin : String) (tasks : List Task) :
    run files includes catalog (.follow path origin :: tasks)
      = match locateImport? files includes origin path with
        | none => (catalog, some (.importNotFound path origin))
        | some target => run files includes catalog (.openFile target :: tasks) := by
  cases hlocate : locateImport? files includes origin path <;> rw [run, hlocate]

theorem run_declare (catalog : Catalog) (decls : List ClassDecl) (origin : String)
    (tasks : List Task) :
    run files includes catalog (.declare decls origin :: tasks)
      = match catalog.addAll origin decls with
        | (next, some error) => (next, some error)
        | (next, none) => run files includes next tasks := by
  rw [run]
  split <;> next h => simp only [h]

theorem run_openFile (catalog : Catalog) (path : String) (tasks : List Task) :
    run files includes catalog (.openFile path :: tasks)
      = match files.canonical? path with
        | none => (catalog, some (.unreadable path))
        | some canonical =>
          if catalog.files.contains canonical = true then run files includes catalog tasks
          else
            match readModel files path canonical with
            | .error error => (catalog.mark canonical, some error)
            | .ok model =>
              run files includes (catalog.mark canonical) (tasksOf model canonical ++ tasks) := by
  rw [run]
  split
  · next h => simp only [h]
  · next h =>
    simp only [h]
    rfl

variable (files includes) in
/-- Tasks are carried out on a catalog without an error and lead to another catalog. -/
def Loads (before : Catalog) (tasks : List Task) (after : Catalog) : Prop :=
  run files includes before tasks = (after, none)

theorem loads_nil {before after : Catalog} : Loads files includes before [] after ↔ after = before := by
  rw [Loads, run]
  simp [eq_comm]

/-- Tasks are carried out one part after the other. -/
theorem loads_append {before after : Catalog} {first second : List Task} :
    Loads files includes before (first ++ second) after ↔
      ∃ middle, Loads files includes before first middle ∧
        Loads files includes middle second after := by
  unfold Loads
  fun_induction run files includes before first with
  | case1 before => simp
  | case2 before path origin tasks hlocate => simp [run_follow, hlocate]
  | case3 before path origin tasks target hlocate ih =>
    rw [List.cons_append, run_follow, hlocate]
    exact ih
  | case4 before decls origin tasks next error hadd =>
    simp [run_declare, hadd]
  | case5 before decls origin tasks next hadd ih =>
    rw [List.cons_append, run_declare, hadd]
    exact ih
  | case6 before path tasks hfound => simp [run_openFile, hfound]
  | case7 before path tasks canonical hfound hseen ih =>
    rw [List.cons_append, run_openFile, hfound]
    simp only [if_pos hseen]
    exact ih
  | case8 before path tasks canonical hfound hseen error hread =>
    rw [List.cons_append, run_openFile, hfound]
    simp only [if_neg hseen, hread]
    simp
  | case9 before path tasks canonical hfound hseen model hread ih =>
    rw [List.append_assoc] at ih
    rw [List.cons_append, run_openFile, hfound]
    simp only [if_neg hseen, hread]
    exact ih

/-- Files are opened one after the other. -/
theorem loads_openFiles_cons {before after : Catalog} {path : String} {pending : List String} :
    Loads files includes before ((path :: pending).map Task.openFile) after ↔
      ∃ middle, Loads files includes before [.openFile path] middle ∧
        Loads files includes middle (pending.map Task.openFile) after := by
  rw [List.map_cons, ← List.singleton_append, loads_append]

/-- An import is followed if it resolves, and if the file that it resolves to can be opened. -/
theorem loads_follow {before after : Catalog} {reference origin : String} :
    Loads files includes before [.follow reference origin] after ↔
      ∃ target, Resolves files includes origin reference target ∧
        Loads files includes before [.openFile target] after := by
  simp only [Loads, run_follow, ← locateImport?_eq_some_iff]
  cases locateImport? files includes origin reference <;> simp

/-- The imports of a file are followed by opening the files that they resolve to. -/
theorem loads_follow_all {origin : String} {references : List String} :
    ∀ {before after : Catalog},
      Loads files includes before (references.map (Task.follow · origin)) after ↔
        ∃ targets, List.Forall₂ (Resolves files includes origin) references targets ∧
          Loads files includes before (targets.map Task.openFile) after := by
  induction references with
  | nil => simp
  | cons reference references ih =>
    intro before after
    rw [List.map_cons, ← List.singleton_append, loads_append]
    simp only [loads_follow, ih]
    constructor
    · rintro ⟨middle, ⟨target, hresolves, hfirst⟩, targets, hall, hrest⟩
      exact ⟨target :: targets, .cons hresolves hall, loads_openFiles_cons.2 ⟨middle, hfirst, hrest⟩⟩
    · rintro ⟨_, hall, hloads⟩
      cases hall with
      | @cons _ target _ targets hresolves hall =>
        obtain ⟨middle, hfirst, hrest⟩ := loads_openFiles_cons.1 hloads
        exact ⟨middle, ⟨target, hresolves, hfirst⟩, targets, hall, hrest⟩

/-- The classes of a model are added if they are named well and no name is taken. -/
theorem loads_declare {before after : Catalog} {decls : List ClassDecl} {origin : String} :
    Loads files includes before [.declare decls origin] after ↔
      (∀ decl ∈ decls, decl.IsWellNamed) ∧
        (before.classes.keys ++ decls.map ClassDecl.name).Nodup ∧
          after.files = before.files ∧
            after.classes.entries = before.classes.entries ++ entriesFrom origin decls := by
  rw [← addAll_eq_none_iff, Loads, run_declare]
  rcases before.addAll origin decls with ⟨next, _ | error⟩
  · simp [run]
  · simp

theorem readModel_eq_ok_iff {path canonical : String} {model : ModelFile} :
    readModel files path canonical = .ok model ↔ IsModelAt files canonical model := by
  unfold readModel IsModelAt
  cases files.contents? canonical with
  | none => simp
  | some contents =>
    simp only [Option.some.injEq, exists_eq_left']
    cases ModelFile.read contents <;> simp

/-- Nothing is done for a file that was opened before. -/
theorem loads_openFile_of_mem {before after : Catalog} {path canonical : String}
    (hfound : files.canonical? path = some canonical) (hseen : canonical ∈ before.files) :
    Loads files includes before [.openFile path] after ↔ after = before := by
  rw [Loads, run_openFile, hfound]
  simp only [if_pos (List.contains_iff_mem.2 hseen)]
  exact loads_nil

variable (files) in
/-- The classes of a file are added to a catalog. -/
structure Adds (before : Catalog) (path : String) (after : Catalog) : Prop where
  wellNamed : ∀ decl ∈ classesAt files path, decl.IsWellNamed
  nodup : (before.classes.keys ++ namesAt files path).Nodup
  files_eq : after.files = before.files
  entries_eq : after.classes.entries = before.classes.entries ++ entriesAt files path

/-- A file that was not opened before is loaded after the files that it imports. -/
theorem loads_openFile_of_not_mem {before after : Catalog} {path canonical : String}
    (hfound : files.canonical? path = some canonical) (hnew : canonical ∉ before.files) :
    Loads files includes before [.openFile path] after ↔
      ∃ targets middle, ImportsAll files includes canonical targets ∧
        Loads files includes (before.mark canonical) (targets.map Task.openFile) middle ∧
          Adds files middle canonical after := by
  have hopened : Loads files includes before [.openFile path] after ↔
      ∃ model, IsModelAt files canonical model ∧
        Loads files includes (before.mark canonical) (tasksOf model canonical) after := by
    rw [Loads, run_openFile, hfound]
    simp only [if_neg (mt List.contains_iff_mem.1 hnew), ← @readModel_eq_ok_iff files path]
    cases readModel files path canonical <;> simp [Loads]
  rw [hopened]
  constructor
  · rintro ⟨model, hmodel, hloads⟩
    obtain ⟨middle, himports, hclasses⟩ := loads_append.1 hloads
    obtain ⟨targets, hall, hopen⟩ := loads_follow_all.1 himports
    obtain ⟨hnames, hnodup, hfiles, hentries⟩ := loads_declare.1 hclasses
    rw [← hmodel.classesAt_eq] at hnames hnodup hentries
    exact ⟨targets, middle, ⟨model, hmodel, hall⟩, hopen, ⟨hnames, hnodup, hfiles, hentries⟩⟩
  · rintro ⟨targets, middle, ⟨model, hmodel, hall⟩, hopen, hadds⟩
    refine ⟨model, hmodel, loads_append.2 ⟨middle, loads_follow_all.2 ⟨targets, hall, hopen⟩, ?_⟩⟩
    rw [loads_declare, ← hmodel.classesAt_eq]
    exact ⟨hadds.wellNamed, hadds.nodup, hadds.files_eq, hadds.entries_eq⟩

/-- It does not matter by which path a file is opened. -/
theorem loads_openFile_congr {before after : Catalog} {path other canonical : String}
    (hpath : files.canonical? path = some canonical)
    (hother : files.canonical? other = some canonical) :
    Loads files includes before [.openFile path] after ↔
      Loads files includes before [.openFile other] after := by
  -- Only the error about an unreadable file mentions the path itself.
  by_cases hseen : canonical ∈ before.files
  · rw [loads_openFile_of_mem hpath hseen, loads_openFile_of_mem hother hseen]
  · rw [loads_openFile_of_not_mem hpath hseen, loads_openFile_of_not_mem hother hseen]

/-- A file that is opened exists. -/
theorem Loads.exists_canonical {before after : Catalog} {path : String}
    (h : Loads files includes before [.openFile path] after) :
    ∃ canonical, files.canonical? path = some canonical := by
  rw [Loads, run_openFile] at h
  cases hfound : files.canonical? path with
  | none => simp [hfound] at h
  | some canonical => exact ⟨canonical, rfl⟩

/-! ## Loading in postorder -/

variable (files) in
/-- A catalog has been extended by files that were opened one after the other. -/
structure Extends (before : Catalog) (order : List String) (after : Catalog) : Prop where
  files_perm : after.files.Perm (order ++ before.files)
  entries_eq : after.classes.entries = before.classes.entries ++ order.flatMap (entriesAt files)

namespace Extends

variable {before middle next after : Catalog} {inner outer order : List String} {path : String}

theorem refl (catalog : Catalog) : Extends files catalog [] catalog where
  files_perm := .refl _
  entries_eq := (List.append_nil _).symm

theorem keys_eq (h : Extends files before order after) :
    after.classes.keys = before.classes.keys ++ order.flatMap (namesAt files) := by
  rw [InsertionTable.keys, h.entries_eq, List.map_append, List.map_flatMap]
  simp only [entriesAt, keys_entriesFrom]
  rfl

theorem mem_files_iff (h : Extends files before order after) (name : String) :
    name ∈ after.files ↔ name ∈ order ++ before.files :=
  h.files_perm.mem_iff

/-- A file stands behind what was opened for its imports. -/
theorem enter (hinner : Extends files (before.mark path) inner middle)
    (hadds : Adds files middle path next) (houter : Extends files next outer after) :
    Extends files before (inner ++ path :: outer) after where
  files_perm := by
    have hnext : next.files.Perm (inner ++ path :: before.files) := by
      rw [hadds.files_eq]
      exact hinner.files_perm
    have hmoved : (outer ++ (inner ++ path :: before.files)).Perm
        (inner ++ path :: (outer ++ before.files)) :=
      (List.perm_append_comm_assoc outer inner (path :: before.files)).trans
        (List.perm_middle.append_left inner)
    rw [List.append_assoc, List.cons_append]
    exact houter.files_perm.trans ((hnext.append_left outer).trans hmoved)
  entries_eq := by
    rw [houter.entries_eq, hadds.entries_eq, hinner.entries_eq]
    simp [mark]

end Extends

/-- No class name is declared twice among files that are listed once if and only if all their class
names, one file after the other, are distinct. -/
theorem declaresOnce_iff_nodup {root : String} {order : List String} (hnodup : order.Nodup)
    (hreaches : ∀ path, path ∈ order ↔ Reaches files includes root path) :
    DeclaresOnce files includes root ↔ (order.flatMap (namesAt files)).Nodup := by
  rw [List.nodup_flatMap]
  constructor
  · intro honce
    constructor
    · intro path hpath
      exact honce.within path ((hreaches path).1 hpath)
    · apply hnodup.pairwise_of_forall_ne
      intro path hpath other hother hne name hname hnameOther
      exact honce.across path other ((hreaches path).1 hpath) ((hreaches other).1 hother) hne name
        hname hnameOther
  · rintro ⟨hwithin, hacross⟩
    constructor
    · intro path hpath
      exact hwithin path ((hreaches path).2 hpath)
    · intro path other hpath hother hne name hname hnameOther
      have : Std.Symm (Function.onFun List.Disjoint (namesAt files)) :=
        ⟨fun _ _ hdisjoint _ hsecond hfirst => hdisjoint hfirst hsecond⟩
      exact hacross.forall ((hreaches path).2 hpath) ((hreaches other).2 hother) hne hname hnameOther

/-- The files in a postorder of imports are sound if their classes are named well. -/
theorem isSound_of_postorder {seen pending order : List String}
    (h : Postorder (ImportsAll files includes) seen pending order)
    (hnames : ∀ path ∈ order, ∀ decl ∈ classesAt files path, decl.IsWellNamed) :
    ∀ path ∈ order, IsSound files includes path := by
  intro path hpath
  obtain ⟨targets, himports, -⟩ := h.closed.2 path hpath
  exact himports.isSound (hnames path hpath)

section Canonical

variable (hcanonical : ∀ path canonical, files.canonical? path = some canonical →
  files.canonical? canonical = some canonical)

include hcanonical

/-- What an import resolves to is a canonical path. -/
theorem ImportsAll.canonical {path : String} {targets : List String}
    (h : ImportsAll files includes path targets) :
    ∀ target ∈ targets, files.canonical? target = some target := by
  obtain ⟨model, hmodel, hall⟩ := h
  intro target htarget
  obtain ⟨reference, _, _, _, _, _, _, hfound⟩ := (mem_iff_of_resolves hall target).2 htarget
  exact hcanonical _ _ hfound

/-- A successful run has opened its files in postorder, and all their classes are named well. -/
theorem Loads.exists_postorder (bound : Nat) :
    ∀ {pending : List String} {before after : Catalog}, unseen files.paths before.files < bound →
      (∀ path ∈ pending, files.canonical? path = some path) →
      Loads files includes before (pending.map Task.openFile) after →
      ∃ order, Postorder (ImportsAll files includes) before.files pending order ∧
        Extends files before order after ∧
          ∀ path ∈ order, ∀ decl ∈ classesAt files path, decl.IsWellNamed := by
  -- Opening a file leaves fewer paths unseen, going on leaves fewer files pending.
  induction bound with
  | zero =>
    intro pending before after hbound
    exact absurd hbound (Nat.not_lt_zero _)
  | succ bound ihBound =>
    intro pending
    induction pending with
    | nil =>
      intro before after _ _ hloads
      rw [List.map_nil, loads_nil] at hloads
      subst hloads
      exact ⟨[], .done _, .refl _, by simp⟩
    | cons path pending ih =>
      intro before after hbound hpending hloads
      obtain ⟨hpath, hrest⟩ := List.forall_mem_cons.1 hpending
      obtain ⟨next, hfirst, hothers⟩ := loads_openFiles_cons.1 hloads
      by_cases hseen : path ∈ before.files
      · rw [loads_openFile_of_mem hpath hseen] at hfirst
        subst hfirst
        obtain ⟨order, horder, hextends, hnames⟩ := ih hbound hrest hothers
        exact ⟨order, .skip hseen horder, hextends, hnames⟩
      · rw [loads_openFile_of_not_mem hpath hseen] at hfirst
        obtain ⟨targets, middle, htargets, hopen, hadds⟩ := hfirst
        have hless := unseen_cons_lt (files.canonical_mem hpath)
          (by simpa using hseen : before.files.contains path = false)
        obtain ⟨inner, hinner, hinnerExtends, hinnerNames⟩ := ihBound
          (Nat.lt_of_lt_of_le hless (Nat.le_of_lt_succ hbound))
          (htargets.canonical hcanonical) hopen
        -- The other pending files find those open that were opened for this one.
        have hfiles : ∀ name, name ∈ next.files ↔ name ∈ inner ++ path :: before.files := by
          intro name
          rw [hadds.files_eq]
          exact hinnerExtends.mem_files_iff name
        have hmore : unseen files.paths next.files ≤ unseen files.paths before.files := by
          apply unseen_le_of_subset
          intro name hname
          simp [hfiles, hname]
        obtain ⟨outer, houter, houterExtends, houterNames⟩ :=
          ih (Nat.lt_of_le_of_lt hmore hbound) hrest hothers
        refine ⟨inner ++ path :: outer, .enter hseen htargets hinner (houter.congr hfiles),
          hinnerExtends.enter hadds houterExtends, ?_⟩
        intro name hname
        rcases List.mem_append.1 hname with hname | hname
        · exact hinnerNames name hname
        · rcases List.mem_cons.1 hname with rfl | hname
          · exact hadds.wellNamed
          · exact houterNames name hname

/-- Along a postorder of files whose classes are named well, under names that are not taken, a run is
successful. -/
theorem loads_of_postorder {seen pending order : List String}
    (h : Postorder (ImportsAll files includes) seen pending order) :
    ∀ before : Catalog, (∀ path, path ∈ before.files ↔ path ∈ seen) →
      (∀ path ∈ pending, files.canonical? path = some path) →
      (∀ path ∈ order, ∀ decl ∈ classesAt files path, decl.IsWellNamed) →
      (before.classes.keys ++ order.flatMap (namesAt files)).Nodup →
      ∃ after, Loads files includes before (pending.map Task.openFile) after ∧
        Extends files before order after := by
  induction h with
  | done seen =>
    intro before _ _ _ _
    exact ⟨before, loads_nil.2 rfl, .refl before⟩
  | skip hseen _ ih =>
    intro before hfiles hpending hnames hnodup
    obtain ⟨hpath, hrest⟩ := List.forall_mem_cons.1 hpending
    obtain ⟨after, hloads, hextends⟩ := ih before hfiles hrest hnames hnodup
    refine ⟨after, loads_openFiles_cons.2 ⟨before, ?_, hloads⟩, hextends⟩
    exact (loads_openFile_of_mem hpath ((hfiles _).2 hseen)).2 rfl
  | @enter seen pending targets inner outer path hnew htargets _ _ ihInner ihOuter =>
    intro before hfiles hpending hnames hnodup
    obtain ⟨hpath, hrest⟩ := List.forall_mem_cons.1 hpending
    obtain ⟨hinnerNames, hothers⟩ := List.forall_mem_append.1 hnames
    obtain ⟨hpathNames, houterNames⟩ := List.forall_mem_cons.1 hothers
    rw [List.flatMap_append, List.flatMap_cons, ← List.append_assoc, ← List.append_assoc] at hnodup
    have huntilPath := (List.nodup_append.1 hnodup).1
    have huntilInner := (List.nodup_append.1 huntilPath).1
    obtain ⟨middle, hinner, hinnerExtends⟩ := ihInner (before.mark path)
      (by simp [mark, hfiles]) (htargets.canonical hcanonical) hinnerNames huntilInner
    have hmiddle : middle.classes.keys = before.classes.keys ++ inner.flatMap (namesAt files) :=
      hinnerExtends.keys_eq
    rw [← hmiddle] at hnodup huntilPath
    obtain ⟨next, hsame, hentries⟩ := exists_extended path _ huntilPath
    have hadds : Adds files middle path next := ⟨hpathNames, huntilPath, hsame, hentries⟩
    have hnext : next.classes.keys = middle.classes.keys ++ namesAt files path :=
      keys_of_entries hadds.entries_eq
    rw [← hnext] at hnodup
    have hnextFiles : ∀ name, name ∈ next.files ↔ name ∈ inner ++ path :: seen := by
      intro name
      rw [hadds.files_eq, hinnerExtends.mem_files_iff]
      simp [mark, hfiles]
    obtain ⟨after, hloads, houterExtends⟩ := ihOuter next hnextFiles hrest houterNames hnodup
    have hfirst : Loads files includes before [.openFile path] next := by
      rw [loads_openFile_of_not_mem hpath (mt (hfiles path).1 hnew)]
      exact ⟨targets, middle, htargets, hinner, hadds⟩
    exact ⟨after, loads_openFiles_cons.2 ⟨next, hfirst, hloads⟩,
      hinnerExtends.enter hadds houterExtends⟩

/-! ## Loading a file -/

/-- All files that are reached from a canonical path are where their paths say. -/
theorem canonical_of_reaches
    {root path : String} (hroot : files.canonical? root = some root)
    (h : Reaches files includes root path) : files.canonical? path = some path := by
  induction h with
  | refl => exact hroot
  | tail _ himports _ =>
    obtain ⟨_, _, _, _, _, _, _, _, _, hfound⟩ := himports
    exact hcanonical _ _ hfound

/-- Loading a file into a fresh catalog opens the files that it reaches in postorder. -/
theorem exists_postorder_of_loads
    {path : String} {catalog : Catalog} (h : Loads files includes {} [.openFile path] catalog) :
    ∃ root order, files.canonical? path = some root ∧
      Postorder (ImportsAll files includes) [] [root] order ∧ Extends files {} order catalog ∧
        ∀ file ∈ order, ∀ decl ∈ classesAt files file, decl.IsWellNamed := by
  obtain ⟨root, hpath⟩ := h.exists_canonical
  have hroot := hcanonical path root hpath
  rw [loads_openFile_congr hpath hroot] at h
  have hpending : ∀ file ∈ [root], files.canonical? file = some file := by
    simpa using hroot
  obtain ⟨order, horder, hextends, hnames⟩ := Loads.exists_postorder hcanonical _
    (Nat.lt_succ_self _) hpending h
  exact ⟨root, order, hpath, horder, hextends, hnames⟩

/-- If all files that are reached from a file are sound, they have a postorder. -/
theorem exists_postorder_of_sound
    {root : String} (hroot : files.canonical? root = some root)
    (hsound : ∀ file, Reaches files includes root file → IsSound files includes file) :
    ∃ order, Postorder (ImportsAll files includes) [] [root] order := by
  apply exists_postorder (fun path targets h target => (h.imports_iff path targets target).2) _
    (Nat.lt_succ_self (unseen files.paths []))
  intro start hstart file hreaches
  rw [List.mem_singleton.1 hstart] at hreaches
  exact ⟨files.canonical_mem (canonical_of_reaches hcanonical hroot hreaches),
    (hsound file hreaches).exists_importsAll⟩

end Canonical

/-- **Import closure.** Loading a file into a fresh catalog succeeds if and only if the file exists,
all files that it reaches through imports are sound, and no class name is declared twice among them.
If it succeeds, the opened files are the reached files, each of them once, and the classes are those of
the reached files, one file after the other in the one postorder of the import graph, each with its
file as its origin. -/
theorem loadFrom_import_closure (files : FileSystem) (includes : List String) (path : String)
    (hcanonical : ∀ path canonical, files.canonical? path = some canonical →
      files.canonical? canonical = some canonical) :
    ((loadFrom files includes {} path).2 = none ↔
      ∃ root, files.canonical? path = some root ∧
        (∀ file, Reaches files includes root file → IsSound files includes file) ∧
          DeclaresOnce files includes root) ∧
    ∀ catalog, loadFrom files includes {} path = (catalog, none) →
      ∃ root order, files.canonical? path = some root ∧
        (∀ other, Postorder (ImportsAll files includes) [] [root] other ↔ other = order) ∧
          order.Nodup ∧ (∀ file, file ∈ order ↔ Reaches files includes root file) ∧
            catalog.files.Perm order ∧
              catalog.classes.entries = order.flatMap (entriesAt files) := by
  constructor
  · constructor
    · intro hsuccess
      have hloads : Loads files includes {} [.openFile path] (loadFrom files includes {} path).1 :=
        Prod.ext rfl hsuccess
      obtain ⟨root, order, hpath, horder, hextends, hnames⟩ :=
        exists_postorder_of_loads hcanonical hloads
      have hreaches := horder.mem_iff_reaches ImportsAll.imports_iff
      refine ⟨root, hpath, ?_, ?_⟩
      · intro file hfile
        exact isSound_of_postorder horder hnames file ((hreaches file).2 hfile)
      · rw [declaresOnce_iff_nodup horder.nodup_and_new.1 hreaches]
        have hkeys := hextends.keys_eq
        rw [show (({} : Catalog).classes.keys = []) from rfl, List.nil_append] at hkeys
        rw [← hkeys]
        exact InsertionTable.keys_nodup _
    · rintro ⟨root, hpath, hsound, honce⟩
      have hroot := hcanonical path root hpath
      obtain ⟨order, horder⟩ := exists_postorder_of_sound hcanonical hroot hsound
      have hreaches := horder.mem_iff_reaches ImportsAll.imports_iff
      have hnodup := (declaresOnce_iff_nodup horder.nodup_and_new.1 hreaches).1 honce
      obtain ⟨catalog, hloads, -⟩ := loads_of_postorder hcanonical horder {} (fun _ => .rfl)
        (by simpa using hroot)
        (fun file hfile => (hsound file ((hreaches file).1 hfile)).wellNamed) hnodup
      have hopened := (loads_openFile_congr hroot hpath).1 hloads
      exact congrArg Prod.snd hopened
  · intro catalog hloads
    obtain ⟨root, order, hpath, horder, hextends, -⟩ :=
      exists_postorder_of_loads hcanonical hloads
    refine ⟨root, order, hpath, ?_, horder.nodup_and_new.1,
      horder.mem_iff_reaches ImportsAll.imports_iff, ?_, ?_⟩
    · intro other
      constructor
      · intro hother
        exact horder.unique ImportsAll.unique hother
      · rintro rfl
        exact horder
    · simpa using hextends.files_perm
    · exact hextends.entries_eq

/-- Two files that import each other, and a file in another directory that both import. -/
def circular : FileSystem :=
  Tree.fileSystem
    ((((((Tree.empty.put [] .directory).put ["m"] .directory).put ["inc"] .directory).put
      ["m", "a.yaml"]
        (.file (some "model:\n  imports: [b.yaml, c.yaml]\nclasses:\n- name: A\n"))).put
      ["m", "b.yaml"]
        (.file (some "model:\n  imports: [c.yaml, a.yaml]\nclasses:\n- name: B\n"))).put
      ["inc", "c.yaml"] (.file (some "classes:\n- name: C\n"))) []

theorem circular_first : IsModelAt circular "/m/a.yaml"
    { imports := ["b.yaml", "c.yaml"], classes := [{ name := "A" }] } :=
  ⟨_, rfl, by decide +kernel⟩

theorem circular_second : IsModelAt circular "/m/b.yaml"
    { imports := ["c.yaml", "a.yaml"], classes := [{ name := "B" }] } :=
  ⟨_, rfl, by decide +kernel⟩

theorem circular_shared : IsModelAt circular "/inc/c.yaml" { classes := [{ name := "C" }] } :=
  ⟨_, rfl, by decide +kernel⟩

theorem circular_postorder : Postorder (ImportsAll circular ["inc"]) [] ["/m/a.yaml"]
    ["/inc/c.yaml", "/m/b.yaml", "/m/a.yaml"] := by
  have hfirst : ImportsAll circular ["inc"] "/m/a.yaml" ["/m/b.yaml", "/inc/c.yaml"] :=
    ⟨_, circular_first, .cons (locateImport?_eq_some_iff.1 (by decide +kernel))
      (.cons (locateImport?_eq_some_iff.1 (by decide +kernel)) .nil)⟩
  have hsecond : ImportsAll circular ["inc"] "/m/b.yaml" ["/inc/c.yaml", "/m/a.yaml"] :=
    ⟨_, circular_second, .cons (locateImport?_eq_some_iff.1 (by decide +kernel))
      (.cons (locateImport?_eq_some_iff.1 (by decide +kernel)) .nil)⟩
  have hshared : ImportsAll circular ["inc"] "/inc/c.yaml" [] := ⟨_, circular_shared, .nil⟩
  have hinner : Postorder (ImportsAll circular ["inc"]) ["/m/b.yaml", "/m/a.yaml"]
      ["/inc/c.yaml", "/m/a.yaml"] ([] ++ "/inc/c.yaml" :: []) :=
    .enter (by simp) hshared (.done _) (.skip (by simp) (.done _))
  have houter : Postorder (ImportsAll circular ["inc"]) ["/m/a.yaml"]
      ["/m/b.yaml", "/inc/c.yaml"] (["/inc/c.yaml"] ++ "/m/b.yaml" :: []) :=
    .enter (by simp) hsecond hinner (.skip (by simp) (.done _))
  show Postorder _ _ _ (["/inc/c.yaml", "/m/b.yaml"] ++ "/m/a.yaml" :: [])
  exact .enter (by simp) hfirst houter (.done _)

/-- The file in the include directory comes first, and the file that is loaded comes last, although the
second file imports it. -/
theorem loadFrom_import_closure_circular :
    ∃ catalog, loadFrom circular ["inc"] {} "m/a.yaml" = (catalog, none) ∧
      catalog.files.Perm ["/inc/c.yaml", "/m/b.yaml", "/m/a.yaml"] ∧
        catalog.classes.keys = ["C", "B", "A"] := by
  have hcanonical : ∀ path canonical, circular.canonical? path = some canonical →
      circular.canonical? canonical = some canonical :=
    (Tree.isProper_of_keys (by decide +kernel)).canonical_idempotent
      fun _ hname => absurd hname List.not_mem_nil
  have hroot : circular.canonical? "m/a.yaml" = some "/m/a.yaml" := by
    decide +kernel
  have hreaches := circular_postorder.mem_iff_reaches ImportsAll.imports_iff
  have hclasses := And.intro circular_shared.classesAt_eq
    (And.intro circular_second.classesAt_eq circular_first.classesAt_eq)
  have hnames : ∀ path ∈ ["/inc/c.yaml", "/m/b.yaml", "/m/a.yaml"],
      ∀ decl ∈ classesAt circular path, decl.IsWellNamed := by
    simp [hclasses, ClassDecl.IsWellNamed]
  have hnodup : (["/inc/c.yaml", "/m/b.yaml", "/m/a.yaml"].flatMap (namesAt circular)).Nodup := by
    simp [namesAt, hclasses]
  have hsuccess := (loadFrom_import_closure circular ["inc"] "m/a.yaml" hcanonical).1.2
    ⟨"/m/a.yaml", hroot,
      fun file hfile => isSound_of_postorder circular_postorder hnames file ((hreaches file).2 hfile),
      (declaresOnce_iff_nodup circular_postorder.nodup_and_new.1 hreaches).2 hnodup⟩
  obtain ⟨root, order, hpath, hpostorder, -, -, hfiles, hentries⟩ :=
    (loadFrom_import_closure circular ["inc"] "m/a.yaml" hcanonical).2 _ (Prod.ext rfl hsuccess)
  obtain rfl : "/m/a.yaml" = root := Option.some.inj (hroot.symm.trans hpath)
  obtain rfl := (hpostorder _).1 circular_postorder
  refine ⟨_, Prod.ext rfl hsuccess, hfiles, ?_⟩
  rw [InsertionTable.keys, hentries]
  simp [entriesAt, entriesFrom, hclasses]

end Catalog

end BundleBuilder
