import BundleBuilder.Files.FileSystem
import BundleBuilder.Proofs.Text.Joining

/-!
# Canonical paths in a tree

A path that is followed in a tree leads to a place without links, so the path of that place leads there
again (`Tree.IsProper.canonical_idempotent`). This needs no more than that everything in the tree lies in
directories, up to the root, and that the program works at a place with proper names.
-/

set_option autoImplicit false

namespace BundleBuilder.Files

/-- A name that may stand in a place: it stands for itself when a path is followed. -/
def IsProperName (name : String) : Prop :=
  name ≠ "" ∧ name ≠ "." ∧ name ≠ ".." ∧ '/' ∉ name.toList

/-- A place all of whose names are proper. -/
def IsProperPlace (place : Place) : Prop := ∀ name ∈ place, IsProperName name

/-! ## Paths of places -/

theorem names_append_slash (front rest : String) :
    names (front ++ "/" ++ rest) = names front ++ names rest :=
  Text.split_append rfl front rest

theorem names_of_not_mem {name : String} (h : '/' ∉ name.toList) : names name = [name] := by
  rw [names, Text.split, Text.splitChars_of_not_mem h, List.map_singleton, String.ofList_toList]

/-- No name in a path has a slash. -/
theorem not_mem_of_mem_names {path name : String} (h : name ∈ names path) : '/' ∉ name.toList :=
  Text.not_mem_of_mem_split h

/-- The names in the path of a place are its names behind the empty name of the root. -/
theorem names_join {place : Place} (h : IsProperPlace place) (hne : place ≠ []) :
    names (Text.join "/" place) = place :=
  Text.split_join rfl hne fun name hname => (h name hname).2.2.2

theorem names_pathOf {place : Place} (h : IsProperPlace place) (hne : place ≠ []) :
    names (pathOf place) = "" :: place := by
  have hpath : pathOf place = "" ++ "/" ++ Text.join "/" place := rfl
  rw [hpath, names_append_slash, names_join h hne]
  rfl

namespace Tree

variable {tree : Tree}

/-- Everything in a tree lies in directories up to the root. -/
def IsProper (tree : Tree) : Prop :=
  ∀ (place : Place) (name : String), IsProperPlace (place ++ [name]) →
    (tree.entry? (place ++ [name])).isSome → tree.isDirectory place = true

/-- It is enough to look at the paths of what is in the tree. -/
theorem isProper_of_keys
    (h : ∀ path ∈ tree.entries.keys, tree.isDirectory (names path).tail.dropLast = true) :
    tree.IsProper := by
  intro place name hplace hentry
  obtain ⟨entry, hfind⟩ := Option.isSome_iff_exists.1 hentry
  have hdirectory := h _ (Table.InsertionTable.mem_keys_of_find? hfind)
  rw [names_pathOf hplace (by simp), List.tail_cons, List.dropLast_concat] at hdirectory
  exact hdirectory

theorem isSome_of_isDirectory {place : Place} (h : tree.isDirectory place = true) :
    (tree.entry? place).isSome := by
  rw [isDirectory, beq_iff_eq] at h
  rw [h]
  rfl

/-- Everything on the way to a place is a directory. -/
theorem IsProper.isDirectory (h : tree.IsProper) (rest : Place) : ∀ {start : Place} {name : String},
    IsProperPlace (start ++ name :: rest) → (tree.entry? (start ++ name :: rest)).isSome →
      tree.isDirectory start = true := by
  induction rest with
  | nil =>
    intro start name hplace hentry
    exact h start name hplace hentry
  | cons second rest ih =>
    intro start name hplace hentry
    rw [List.append_cons] at hplace hentry
    have hstart : IsProperPlace (start ++ [name]) := by
      intro other hother
      exact hplace other (List.mem_append_left _ hother)
    exact h start name hstart (isSome_of_isDirectory (ih hplace hentry))

/-! ## Following the path of a place -/

/-- Following the names of a place leads there. -/
theorem IsProper.walk_eq (h : tree.IsProper) (rest : Place) : ∀ {start : Place},
    IsProperPlace (start ++ rest) → (tree.entry? (start ++ rest)).isSome →
      tree.walk start rest = some (start ++ rest) := by
  induction rest with
  | nil =>
    intro start _ hentry
    rw [List.append_nil] at hentry ⊢
    rw [walk, if_pos hentry]
  | cons name rest ih =>
    intro start hplace hentry
    have hdirectory := h.isDirectory rest hplace hentry
    obtain ⟨hempty, hdot, hdots, -⟩ := hplace name (by simp)
    rw [walk, hdirectory]
    simp only [Bool.not_true, Bool.false_eq_true, if_false, hempty, hdot, hdots, or_self]
    rw [List.append_cons] at hplace hentry
    have hwalk := ih hplace hentry
    rw [List.append_assoc] at hwalk
    exact hwalk

/-- What is at the end of a way along names without slashes is a proper place. -/
theorem isProperPlace_of_walk {names : List String} (hnames : ∀ name ∈ names, '/' ∉ name.toList) :
    ∀ {place target : Place}, IsProperPlace place → tree.walk place names = some target →
      IsProperPlace target := by
  induction names with
  | nil =>
    intro place target hplace h
    rw [walk] at h
    split at h
    · cases h
      exact hplace
    · cases h
  | cons name rest ih =>
    intro place target hplace h
    obtain ⟨hname, hrest⟩ := List.forall_mem_cons.1 hnames
    rw [walk] at h
    split at h
    · cases h
    · split at h
      · exact ih hrest hplace h
      · next hother =>
        split at h
        · apply ih hrest ?_ h
          intro other hmem
          exact hplace other (List.dropLast_subset _ hmem)
        · next hdots =>
          rw [not_or] at hother
          apply ih hrest ?_ h
          intro other hmem
          rcases List.mem_append.1 hmem with hmem | hmem
          · exact hplace other hmem
          · rw [List.mem_singleton.1 hmem]
            exact ⟨hother.1, hother.2, hdots, hname⟩

/-- A path is followed only if there is a root. -/
theorem IsProper.isDirectory_root (h : tree.IsProper) {directory target : Place}
    (hdirectory : IsProperPlace directory) {path : String}
    (hfound : tree.locate? directory path = some target) : tree.isDirectory [] = true := by
  rw [locate?] at hfound
  split at hfound
  · cases hfound
  · -- The place from which the path is followed is a directory.
    have hstart : tree.isDirectory (if isAbsolute path then [] else directory) = true := by
      generalize (if isAbsolute path then [] else directory) = start at hfound
      cases hnames : names path with
      | nil => exact absurd hnames (Text.split_ne_nil '/' path)
      | cons name rest =>
        rw [hnames, walk] at hfound
        split at hfound
        · cases hfound
        · next hnot => simpa using hnot
    split at hstart
    · exact hstart
    · cases directory with
      | nil => exact hstart
      | cons name rest =>
        exact @IsProper.isDirectory _ h rest [] name hdirectory (isSome_of_isDirectory hstart)

/-- The path of a place to which a path leads, leads there. -/
theorem IsProper.locate?_pathOf (h : tree.IsProper) {directory place : Place}
    (hdirectory : IsProperPlace directory) {path : String}
    (hfound : tree.locate? directory path = some place) :
    tree.locate? directory (pathOf place) = some place := by
  have hroot := h.isDirectory_root hdirectory hfound
  have habsolute : isAbsolute (pathOf place) = true := by
    simp [isAbsolute, pathOf]
  have hnonempty : pathOf place ≠ "" := by
    intro heq
    rw [heq] at habsolute
    cases habsolute
  rw [locate?] at hfound
  split at hfound
  · cases hfound
  · obtain ⟨entry, hentry⟩ := entry?_of_walk hfound
    have hplace : IsProperPlace place := by
      apply isProperPlace_of_walk (fun name => not_mem_of_mem_names) ?_ hfound
      split
      · exact fun name hname => absurd hname List.not_mem_nil
      · exact hdirectory
    have hsome : (tree.entry? place).isSome := Option.isSome_iff_exists.2 ⟨entry, hentry⟩
    rw [locate?, if_neg hnonempty, if_pos habsolute]
    by_cases hempty : place = []
    · subst hempty
      rw [show names (pathOf []) = ["", ""] by decide +kernel]
      simp [walk, hroot, hsome]
    · rw [names_pathOf hplace hempty, walk]
      simp only [hroot, Bool.not_true, Bool.false_eq_true, if_false, true_or, if_true]
      exact h.walk_eq place hplace hsome

/-- **Canonical paths.** The canonical path of what a path leads to, leads there again. -/
theorem IsProper.canonical_idempotent (h : tree.IsProper) {directory : Place}
    (hdirectory : IsProperPlace directory) (path canonical : String)
    (hfound : (tree.fileSystem directory).canonical? path = some canonical) :
    (tree.fileSystem directory).canonical? canonical = some canonical := by
  obtain ⟨place, hplace, rfl⟩ := Option.map_eq_some_iff.1 hfound
  exact Option.map_eq_some_iff.2 ⟨place, h.locate?_pathOf hdirectory hplace, rfl⟩

end Tree

end BundleBuilder.Files
