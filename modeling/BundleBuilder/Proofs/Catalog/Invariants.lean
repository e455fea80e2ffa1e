import BundleBuilder.Proofs.Catalog.ImportClosure

/-!
# What loading preserves

Loading changes a catalog in two ways only: it remembers a file as opened, and it adds a class. A
property that both of them preserve is preserved by all tasks, whether they are carried out without an
error or not (`run_preserves`). In particular nothing is ever taken out of a catalog (`grows_run`), and
a call adds classes of files only that had not been opened before (`origin_of_mem_entries`).
-/

set_option autoImplicit false

namespace BundleBuilder.Catalog

open Table Files

variable {files : FileSystem} {includes : List String}

/-! ## Steps and runs -/

/-- What every addition preserves is preserved up to the first class that cannot be added. -/
theorem addAll_preserves (property : Catalog → Prop) {origin : String} (decls : List ClassDecl) :
    ∀ {catalog : Catalog},
      (∀ catalog next decl, decl ∈ decls → catalog.add decl origin = .ok next →
        property catalog → property next) →
      property catalog → property (catalog.addAll origin decls).1 := by
  induction decls with
  | nil => exact fun _ hstart => hstart
  | cons decl decls ih =>
    intro catalog hadd hstart
    rw [addAll]
    split
    · exact hstart
    · next next hok =>
      apply ih
      · intro catalog next decl hdecl
        exact hadd catalog next decl (List.mem_cons_of_mem _ hdecl)
      · exact hadd catalog next decl List.mem_cons_self hok hstart

/-- What is preserved by opening a file and by adding a class is preserved by tasks. It may depend on
where the added classes come from: each is declared by one of the tasks, or by a file that has just been
opened. -/
theorem run_preserves (property : Catalog → Prop) (declares : ClassDecl → String → Prop)
    (hadd : ∀ catalog next decl origin, declares decl origin → catalog.add decl origin = .ok next →
      property catalog → property next)
    (hmark : ∀ catalog path canonical, files.canonical? path = some canonical →
      canonical ∉ catalog.files → property catalog → property (catalog.mark canonical))
    (hread : ∀ catalog canonical model, canonical ∉ catalog.files → property catalog →
      IsModelAt files canonical model → ∀ decl ∈ model.classes, declares decl canonical)
    (tasks : List Task) (catalog : Catalog)
    (htasks : ∀ decls origin, Task.declare decls origin ∈ tasks → ∀ decl ∈ decls, declares decl origin)
    (hstart : property catalog) : property (run files includes catalog tasks).1 := by
  fun_induction run files includes catalog tasks with
  | case1 => exact hstart
  | case2 => exact hstart
  | case3 catalog path origin tasks target hlocate ih =>
    refine ih (fun decls other hmem => ?_) hstart
    exact htasks decls other (by simpa using hmem)
  | case4 catalog decls origin tasks next error hok =>
    have hdecls := htasks decls origin List.mem_cons_self
    have hadded := addAll_preserves property decls
      (fun catalog next decl hdecl => hadd catalog next decl origin (hdecls decl hdecl)) hstart
    rwa [hok] at hadded
  | case5 catalog decls origin tasks next hok ih =>
    have hdecls := htasks decls origin List.mem_cons_self
    have hadded := addAll_preserves property decls
      (fun catalog next decl hdecl => hadd catalog next decl origin (hdecls decl hdecl)) hstart
    rw [hok] at hadded
    exact ih (fun decls other hmem => htasks decls other (List.mem_cons_of_mem _ hmem)) hadded
  | case6 => exact hstart
  | case7 catalog path tasks canonical hfound hseen ih =>
    exact ih (fun decls other hmem => htasks decls other (List.mem_cons_of_mem _ hmem)) hstart
  | case8 catalog path tasks canonical hfound hseen =>
    exact hmark catalog path canonical hfound (mt List.contains_iff_mem.2 hseen) hstart
  | case9 catalog path tasks canonical hfound hseen model hmodel ih =>
    have hnew := mt List.contains_iff_mem.2 hseen
    refine ih (fun decls other hmem => ?_) (hmark catalog path canonical hfound hnew hstart)
    rcases List.mem_append.1 hmem with hmem | hmem
    · obtain ⟨rfl, rfl⟩ : decls = model.classes ∧ other = canonical := by
        simpa [tasksOf] using hmem
      exact hread catalog other model hnew hstart (readModel_eq_ok_iff.1 hmodel)
    · exact htasks decls other (List.mem_cons_of_mem _ hmem)

/-! ## Growth -/

/-- A catalog has all files and classes of another one. -/
structure Grows (before after : Catalog) : Prop where
  files : before.files ⊆ after.files
  entries : before.classes.entries ⊆ after.classes.entries

namespace Grows

variable {before middle after : Catalog}

theorem refl (catalog : Catalog) : Grows catalog catalog := ⟨fun _ h => h, fun _ h => h⟩

theorem trans (hfirst : Grows before middle) (hsecond : Grows middle after) : Grows before after :=
  ⟨List.Subset.trans hfirst.files hsecond.files,
    List.Subset.trans hfirst.entries hsecond.entries⟩

theorem mark (catalog : Catalog) (path : String) : Grows catalog (catalog.mark path) :=
  ⟨fun _ h => List.mem_cons_of_mem _ h, fun _ h => h⟩

theorem add {decl : ClassDecl} {origin : String} (h : before.add decl origin = .ok after) :
    Grows before after := by
  obtain ⟨-, -, hfiles, hentries⟩ := (add_eq_ok_iff _ _ _ _).1 h
  constructor
  · rw [hfiles]
    exact List.Subset.refl _
  · rw [hentries]
    exact List.subset_append_left _ _

end Grows

/-- Carrying out tasks takes nothing out of a catalog. -/
theorem grows_run (tasks : List Task) (catalog : Catalog) :
    Grows catalog (run files includes catalog tasks).1 := by
  apply run_preserves (Grows catalog) fun _ _ => True
  · intro current next decl origin _ hok hgrows
    exact hgrows.trans (.add hok)
  · intro current path canonical _ _ hgrows
    exact hgrows.trans (.mark current canonical)
  · simp
  · simp
  · exact .refl catalog

/-- The files that a call opens are remembered by their canonical paths. -/
theorem exists_path_of_mem_files (catalog : Catalog) (path : String) :
    ∀ file ∈ (loadFrom files includes catalog path).1.files,
      file ∈ catalog.files ∨ ∃ path, files.canonical? path = some file := by
  apply run_preserves (fun next => ∀ file ∈ next.files,
    file ∈ catalog.files ∨ ∃ path, files.canonical? path = some file) fun _ _ => True
  · intro current next decl origin _ hok hfiles
    rwa [files_add hok]
  · intro current path canonical hfound _ hfiles
    exact List.forall_mem_cons.2 ⟨.inr ⟨path, hfound⟩, hfiles⟩
  · simp
  · simp
  · exact fun file hfile => .inl hfile

/-- The classes that a call adds come from files that had not been opened before. -/
theorem origin_of_mem_entries (catalog : Catalog) (path : String) :
    ∀ entry ∈ (loadFrom files includes catalog path).1.classes.entries,
      entry ∈ catalog.classes.entries ∨ entry.2.origin ∉ catalog.files := by
  have hboth : Grows catalog (loadFrom files includes catalog path).1 ∧
      ∀ entry ∈ (loadFrom files includes catalog path).1.classes.entries,
        entry ∈ catalog.classes.entries ∨ entry.2.origin ∉ catalog.files := by
    apply run_preserves (fun next => Grows catalog next ∧ ∀ entry ∈ next.classes.entries,
      entry ∈ catalog.classes.entries ∨ entry.2.origin ∉ catalog.files) fun _ origin =>
        origin ∉ catalog.files
    · rintro current next decl origin horigin hok ⟨hgrows, hentries⟩
      obtain ⟨-, -, -, hadded⟩ := (add_eq_ok_iff _ _ _ _).1 hok
      refine ⟨hgrows.trans (.add hok), ?_⟩
      rw [hadded, List.forall_mem_append]
      exact ⟨hentries, by simp [entriesFrom, horigin]⟩
    · rintro current path canonical - - ⟨hgrows, hentries⟩
      exact ⟨hgrows.trans (.mark current canonical), hentries⟩
    · rintro current canonical model hnew ⟨hgrows, -⟩ - decl -
      exact fun hopened => hnew (hgrows.files hopened)
    · simp
    · exact ⟨.refl catalog, fun entry hentry => .inl hentry⟩
  exact hboth.2

end BundleBuilder.Catalog
