import BundleBuilder.Proofs.Catalog.Invariants
import Mathlib.Data.List.Induction

/-!
# Loading after errors

A catalog may be used further after loading has failed. A file is remembered as opened before it is
read, so a call that fails leaves those files unfinished whose imports it was still following. Such a
file is never looked at again: a later call for it succeeds and adds none of the missing classes.
Everything else is there. After a call that succeeds, all files are finished that are reached from the
requested one without passing through a file that an earlier call left unfinished
(`finished_of_ok_after_errors`).
-/

set_option autoImplicit false

namespace BundleBuilder.Catalog

open Table Files

variable (files : FileSystem) (includes : List String)

/-! ## Histories -/

/-- A catalog after calls that load files. A call that fails leaves in the catalog what it had loaded
before the error. -/
def afterLoading (catalog : Catalog) (history : List String) : Catalog :=
  history.foldl (fun catalog path => (loadFrom files includes catalog path).1) catalog

/-- A file is finished in a catalog: it was opened, all its imports resolve to files that were opened,
and all its classes are in the catalog. -/
structure IsFinished (catalog : Catalog) (file : String) : Prop where
  opened : file ∈ catalog.files
  imports : ∃ targets, ImportsAll files includes file targets ∧
    ∀ target ∈ targets, target ∈ catalog.files
  entries : ∀ entry ∈ entriesAt files file, entry ∈ catalog.classes.entries

/-- Loading a path fails after it has opened a file and before the file is finished. -/
structure Leaves (catalog : Catalog) (path file : String) : Prop where
  failed : (loadFrom files includes catalog path).2 ≠ none
  unopened : file ∉ catalog.files
  opened : file ∈ (loadFrom files includes catalog path).1.files
  unfinished : ¬ IsFinished files includes (loadFrom files includes catalog path).1 file

/-- A call of the history has left a file unfinished. -/
def LeftUnfinished (history : List String) (file : String) : Prop :=
  ∃ earlier path later, history = earlier ++ path :: later ∧
    Leaves files includes (afterLoading files includes {} earlier) path file

/-- A file is reached through files that no call of the history has left unfinished, and is itself none
of these. -/
def ReachesFinished (history : List String) (start file : String) : Prop :=
  Relation.ReflTransGen
      (fun file target => ¬ LeftUnfinished files includes history file ∧
        Imports files includes file target) start file ∧
    ¬ LeftUnfinished files includes history file

variable {files includes}

theorem afterLoading_append (catalog : Catalog) (earlier later : List String) :
    afterLoading files includes catalog (earlier ++ later)
      = afterLoading files includes (afterLoading files includes catalog earlier) later :=
  List.foldl_append

theorem afterLoading_concat (catalog : Catalog) (history : List String) (path : String) :
    afterLoading files includes catalog (history ++ [path])
      = (loadFrom files includes (afterLoading files includes catalog history) path).1 :=
  afterLoading_append catalog history [path]

theorem grows_afterLoading (history : List String) : ∀ catalog : Catalog,
    Grows catalog (afterLoading files includes catalog history) := by
  induction history with
  | nil => exact Grows.refl
  | cons path history ih =>
    intro catalog
    exact (grows_run [.openFile path] catalog).trans (ih _)

theorem LeftUnfinished.concat {history : List String} {file : String}
    (h : LeftUnfinished files includes history file) (path : String) :
    LeftUnfinished files includes (history ++ [path]) file := by
  obtain ⟨earlier, failing, later, rfl, hleaves⟩ := h
  exact ⟨earlier, failing, later ++ [path], by simp, hleaves⟩

/-! ## Finished files -/

section Finished

theorem IsFinished.mono {before after : Catalog} {file : String}
    (h : IsFinished files includes before file) (hgrows : Grows before after) :
    IsFinished files includes after file := by
  obtain ⟨targets, htargets, hopened⟩ := h.imports
  constructor
  · exact hgrows.files h.opened
  · exact ⟨targets, htargets, fun target htarget => hgrows.files (hopened target htarget)⟩
  · exact fun entry hentry => hgrows.entries (h.entries entry hentry)

/-- What a finished file imports was opened. -/
theorem IsFinished.opened_of_imports {catalog : Catalog} {file target : String}
    (h : IsFinished files includes catalog file) (himports : Imports files includes file target) :
    target ∈ catalog.files := by
  obtain ⟨targets, htargets, hopened⟩ := h.imports
  exact hopened target ((ImportsAll.imports_iff file targets htargets target).1 himports)

variable (hcanonical : ∀ path canonical, files.canonical? path = some canonical →
  files.canonical? canonical = some canonical)

include hcanonical

/-- A call that succeeds finishes the files that it opens, and the requested file was opened. -/
theorem Loads.finished {before after : Catalog} {path : String}
    (h : Loads files includes before [.openFile path] after) :
    (∃ root, files.canonical? path = some root ∧ root ∈ after.files) ∧
      ∀ file ∈ after.files, file ∈ before.files ∨ IsFinished files includes after file := by
  obtain ⟨root, hpath⟩ := h.exists_canonical
  have hroot := hcanonical path root hpath
  have hloads := (loads_openFile_congr hpath hroot).1 h
  obtain ⟨order, horder, hextends, -⟩ := Loads.exists_postorder hcanonical _ (Nat.lt_succ_self _)
    (by simpa using hroot : ∀ file ∈ [root], files.canonical? file = some file) hloads
  obtain ⟨hpending, htargets⟩ := horder.closed
  have hopened : ∀ file, file ∈ before.files ∨ file ∈ order → file ∈ after.files := by
    intro file hfile
    rw [hextends.mem_files_iff, List.mem_append]
    exact hfile.symm
  refine ⟨⟨root, hpath, hopened root (hpending root List.mem_cons_self)⟩, ?_⟩
  intro file hfile
  rw [hextends.mem_files_iff, List.mem_append] at hfile
  refine hfile.symm.imp_right fun hmem => ⟨hopened file (.inr hmem), ?_, ?_⟩
  · obtain ⟨targets, hall, hseen⟩ := htargets file hmem
    exact ⟨targets, hall, fun target htarget => hopened target (hseen target htarget)⟩
  · intro entry hentry
    rw [hextends.entries_eq]
    exact List.mem_append_right _ (List.mem_flatMap.2 ⟨file, hmem, hentry⟩)

/-- A file that was opened is finished, unless a call that failed has left it unfinished. -/
theorem finished_or_left (history : List String) :
    ∀ file ∈ (afterLoading files includes {} history).files,
      LeftUnfinished files includes history file ∨
        IsFinished files includes (afterLoading files includes {} history) file := by
  induction history using List.reverseRecOn with
  | nil =>
    intro file hfile
    cases hfile
  | append_singleton history path ih =>
    intro file hfile
    rw [afterLoading_concat] at hfile ⊢
    have hgrows : Grows (afterLoading files includes {} history)
        (loadFrom files includes (afterLoading files includes {} history) path).1 := grows_run _ _
    by_cases hbefore : file ∈ (afterLoading files includes {} history).files
    · rcases ih file hbefore with hleft | hfinished
      · exact .inl (hleft.concat path)
      · exact .inr (hfinished.mono hgrows)
    · by_cases hok : (loadFrom files includes (afterLoading files includes {} history) path).2 = none
      · obtain ⟨-, hnew⟩ := Loads.finished hcanonical (Prod.ext rfl hok)
        exact .inr ((hnew file hfile).resolve_left hbefore)
      · -- The call that fails is the one that leaves the file unfinished, if it is.
        by_cases hfinished : IsFinished files includes
            (loadFrom files includes (afterLoading files includes {} history) path).1 file
        · exact .inr hfinished
        · exact .inl ⟨history, path, [], rfl, hok, hbefore, hfile, hfinished⟩

/-- What was opened is remembered by its canonical path. -/
theorem canonical_of_mem_afterLoading (history : List String) :
    ∀ file ∈ (afterLoading files includes {} history).files, files.canonical? file = some file := by
  induction history using List.reverseRecOn with
  | nil =>
    intro file hfile
    cases hfile
  | append_singleton history path ih =>
    intro file hfile
    rw [afterLoading_concat] at hfile
    rcases exists_path_of_mem_files _ path file hfile with hbefore | ⟨source, hsource⟩
    · exact ih file hbefore
    · exact hcanonical source file hsource

end Finished

/-! ## Unfinished files -/

section Unfinished

variable {catalog : Catalog} {file : String}

/-- A file that was opened is not looked at again. -/
theorem loadFrom_of_mem (hfound : files.canonical? file = some file) (hopened : file ∈ catalog.files) :
    loadFrom files includes catalog file = (catalog, none) :=
  (loads_openFile_of_mem hfound hopened).2 rfl

/-- What is missing of a file that was opened stays missing. -/
theorem not_mem_entries_of_opened {entry : String × LoadedClass}
    (hopened : entry.2.origin ∈ catalog.files) (hmissing : entry ∉ catalog.classes.entries)
    (later : List String) :
    entry ∉ (afterLoading files includes catalog later).classes.entries := by
  induction later generalizing catalog with
  | nil => exact hmissing
  | cons path later ih =>
    have hgrows : Grows catalog (loadFrom files includes catalog path).1 := grows_run _ _
    apply ih (hgrows.files hopened)
    intro hmem
    exact (origin_of_mem_entries catalog path entry hmem).elim hmissing (absurd hopened)

theorem origin_of_mem_entriesAt {entry : String × LoadedClass} (h : entry ∈ entriesAt files file) :
    entry.2.origin = file := by
  obtain ⟨decl, -, rfl⟩ := List.mem_map.1 h
  rfl

end Unfinished

/-- **Success after errors.** Files are loaded into one catalog by any calls, of which some may fail.

If a call then succeeds, the requested file exists, and every file is finished that is reached from it
without passing through a file that an earlier call left unfinished: it was opened, and all its classes
are in the catalog.

If an earlier call left a file unfinished, a call for this file succeeds and changes nothing, and the
classes that were missing of it when that call failed are missing still. -/
theorem finished_of_ok_after_errors (files : FileSystem) (includes : List String)
    (hcanonical : ∀ path canonical, files.canonical? path = some canonical →
      files.canonical? canonical = some canonical) (history : List String) :
    (∀ path after, loadFrom files includes (afterLoading files includes {} history) path = (after, none) →
      ∃ root, files.canonical? path = some root ∧
        ∀ file, ReachesFinished files includes history root file →
          IsFinished files includes after file) ∧
    ∀ earlier path later file, history = earlier ++ path :: later →
      Leaves files includes (afterLoading files includes {} earlier) path file →
        loadFrom files includes (afterLoading files includes {} history) file
            = (afterLoading files includes {} history, none) ∧
          ∀ entry ∈ entriesAt files file,
            entry ∉ (afterLoading files includes {} (earlier ++ [path])).classes.entries →
              entry ∉ (afterLoading files includes {} history).classes.entries := by
  constructor
  · intro path after hok
    have hloads : Loads files includes (afterLoading files includes {} history) [.openFile path] after :=
      hok
    obtain ⟨⟨root, hpath, hroot⟩, hnew⟩ := hloads.finished hcanonical
    have hgrows : Grows (afterLoading files includes {} history) after := by
      have hcall : run files includes (afterLoading files includes {} history) [.openFile path]
          = (after, none) := hok
      have hgrown := @grows_run files includes [.openFile path] (afterLoading files includes {} history)
      rwa [hcall] at hgrown
    have hfinished : ∀ file ∈ after.files, ¬ LeftUnfinished files includes history file →
        IsFinished files includes after file := by
      intro file hfile hleft
      rcases hnew file hfile with hbefore | hnow
      · exact ((finished_or_left hcanonical history file hbefore).resolve_left hleft).mono hgrows
      · exact hnow
    refine ⟨root, hpath, ?_⟩
    rintro file ⟨hreaches, hleft⟩
    refine hfinished file ?_ hleft
    clear hleft
    -- Along the imports every file was opened, because the one before it is finished.
    induction hreaches with
    | refl => exact hroot
    | tail _ hstep ih => exact (hfinished _ ih hstep.1).opened_of_imports hstep.2
  · rintro earlier path later file rfl hleaves
    have hsplit : afterLoading files includes {} (earlier ++ path :: later)
        = afterLoading files includes (afterLoading files includes {} (earlier ++ [path])) later := by
      rw [← afterLoading_append, List.append_assoc]
      rfl
    have hopened : file ∈ (afterLoading files includes {} (earlier ++ [path])).files := by
      rw [afterLoading_concat]
      exact hleaves.opened
    have hstill : file ∈ (afterLoading files includes {} (earlier ++ path :: later)).files := by
      rw [hsplit]
      exact (grows_afterLoading later _).files hopened
    constructor
    · exact loadFrom_of_mem (canonical_of_mem_afterLoading hcanonical _ file hstill) hstill
    · intro entry hentry hmissing
      rw [hsplit]
      rw [← origin_of_mem_entriesAt hentry] at hopened
      exact not_mem_entries_of_opened hopened hmissing later

/-! ## A missing import -/

/-- A file with a missing import, and a file without imports. -/
def broken : FileSystem :=
  Tree.fileSystem
    (((Tree.empty.put [] .directory).put ["a.yaml"]
        (.file (some "model:\n  imports: [missing.yaml]\nclasses:\n- name: A\n"))).put
      ["b.yaml"] (.file (some "classes:\n- name: B\n"))) []

theorem broken_first : IsModelAt broken "/a.yaml"
    { imports := ["missing.yaml"], classes := [{ name := "A" }] } :=
  ⟨_, rfl, by decide +kernel⟩

theorem broken_second : IsModelAt broken "/b.yaml" { classes := [{ name := "B" }] } :=
  ⟨_, rfl, by decide +kernel⟩

theorem broken_canonical : ∀ path canonical, broken.canonical? path = some canonical →
    broken.canonical? canonical = some canonical :=
  (Tree.isProper_of_keys (by decide +kernel)).canonical_idempotent
    fun _ hname => absurd hname List.not_mem_nil

theorem broken_found : broken.canonical? "a.yaml" = some "/a.yaml" := by
  decide +kernel

/-- The missing import is noticed after the file was remembered. -/
theorem loadFrom_broken : loadFrom broken [] {} "a.yaml"
    = ({ files := ["/a.yaml"] }, some (.importNotFound "missing.yaml" "/a.yaml")) := by
  have hread := (@readModel_eq_ok_iff broken "a.yaml" "/a.yaml" _).2 broken_first
  have hlocate : locateImport? broken [] "/a.yaml" "missing.yaml" = none := by
    decide +kernel
  rw [loadFrom, run_openFile, broken_found]
  simp only [List.contains_nil, Bool.false_eq_true, if_false, hread, tasksOf, List.map_cons,
    List.cons_append, run_follow, hlocate]
  rfl

/-- It is not so that a successful call has loaded the classes of all reached files: after the error,
loading the file again succeeds without its class. -/
theorem not_loaded_after_ok :
    ¬ ∀ history path after, loadFrom broken [] (afterLoading broken [] {} history) path = (after, none) →
      ∃ root, broken.canonical? path = some root ∧ ∀ file, Reaches broken [] root file →
        ∀ name ∈ namesAt broken file, name ∈ after.classes.keys := by
  intro h
  have hagain : loadFrom broken [] (afterLoading broken [] {} ["a.yaml"]) "a.yaml"
      = ({ files := ["/a.yaml"] }, none) := by
    rw [afterLoading, List.foldl_cons, List.foldl_nil, loadFrom_broken]
    exact (loads_openFile_of_mem broken_found List.mem_cons_self).2 rfl
  obtain ⟨root, hroot, hloaded⟩ := h ["a.yaml"] "a.yaml" _ hagain
  obtain rfl : "/a.yaml" = root := Option.some.inj (broken_found.symm.trans hroot)
  have hname : "A" ∈ namesAt broken "/a.yaml" := by
    simp [namesAt, broken_first.classesAt_eq]
  exact absurd (hloaded "/a.yaml" .refl "A" hname) List.not_mem_nil

/-- The other file is loaded after the error with its class. The class of the first file stays missing,
and a further call for this file does not notice. -/
theorem finished_of_ok_after_errors_broken :
    ∃ after, loadFrom broken [] (afterLoading broken [] {} ["a.yaml"]) "b.yaml" = (after, none) ∧
      IsFinished broken [] after "/b.yaml" ∧
      loadFrom broken [] (afterLoading broken [] {} ["a.yaml", "b.yaml"]) "/a.yaml"
          = (afterLoading broken [] {} ["a.yaml", "b.yaml"], none) ∧
        ∀ entry ∈ entriesAt broken "/a.yaml",
          entry ∉ (afterLoading broken [] {} ["a.yaml", "b.yaml"]).classes.entries := by
  have hfirst : afterLoading broken [] {} ["a.yaml"] = { files := ["/a.yaml"] } := by
    rw [afterLoading, List.foldl_cons, List.foldl_nil, loadFrom_broken]
  have hentry : ("A", ⟨{ name := "A" }, "/a.yaml"⟩) ∈ entriesAt broken "/a.yaml" := by
    simp [entriesAt, entriesFrom, broken_first.classesAt_eq]
  have hleaves : Leaves broken [] {} "a.yaml" "/a.yaml" := by
    constructor
    · simp [loadFrom_broken]
    · exact List.not_mem_nil
    · simp [loadFrom_broken]
    · intro hfinished
      have hmem := hfinished.entries _ hentry
      rw [loadFrom_broken] at hmem
      cases hmem
  have hsecond : ¬ LeftUnfinished broken [] ["a.yaml"] "/b.yaml" := by
    rintro ⟨earlier, path, later, heq, hleft⟩
    obtain ⟨rfl, rfl, -⟩ : earlier = [] ∧ path = "a.yaml" ∧ later = [] := by
      cases earlier <;> simp_all
    have hopened := hleft.opened
    rw [afterLoading, List.foldl_nil, loadFrom_broken] at hopened
    simp at hopened
  have hfound : broken.canonical? "b.yaml" = some "/b.yaml" := by
    decide +kernel
  have hclasses := broken_second.classesAt_eq
  have himports : ImportsAll broken [] "/b.yaml" [] := ⟨_, broken_second, .nil⟩
  obtain ⟨after, hload⟩ : ∃ after, Loads broken [] { files := ["/a.yaml"] } [.openFile "b.yaml"] after := by
    have hnew : "/b.yaml" ∉ ({ files := ["/a.yaml"] } : Catalog).files := by
      decide
    have hnodup : ((({ files := ["/a.yaml"] } : Catalog).mark "/b.yaml").classes.keys
        ++ namesAt broken "/b.yaml").Nodup := by
      simp [namesAt, hclasses, mark, InsertionTable.keys, InsertionTable.empty]
    obtain ⟨after, hfiles, hentries⟩ := exists_extended "/b.yaml" _ hnodup
    refine ⟨after, (loads_openFile_of_not_mem hfound hnew).2 ⟨[], _, himports, loads_nil.2 rfl, ?_⟩⟩
    exact ⟨by simp [hclasses, ClassDecl.IsWellNamed], hnodup, hfiles, hentries⟩
  rw [← hfirst] at hload
  obtain ⟨root, hroot, hfinished⟩ :=
    (finished_of_ok_after_errors broken [] broken_canonical ["a.yaml"]).1 "b.yaml" after hload
  obtain rfl : "/b.yaml" = root := Option.some.inj (hfound.symm.trans hroot)
  obtain ⟨hagain, hmissing⟩ :=
    (finished_of_ok_after_errors broken [] broken_canonical ["a.yaml", "b.yaml"]).2 [] "a.yaml"
      ["b.yaml"] "/a.yaml" rfl hleaves
  refine ⟨after, hload, hfinished "/b.yaml" ⟨.refl, hsecond⟩, hagain, fun entry hmem => ?_⟩
  apply hmissing entry hmem
  rw [List.nil_append, hfirst]
  exact List.not_mem_nil

end BundleBuilder.Catalog
