import BundleBuilder.Files.Tree

/-!
# File systems

What a program that only reads asks of a file system: where a path leads, and what the file there
contains. A path leads to a canonical path, which names a file or directory in one way; how paths are
followed, and whether links are on the way, is left to the file system. A tree of files is one.
-/

set_option autoImplicit false

namespace BundleBuilder.Files

/-- A file system that does not change. -/
structure FileSystem where
  /-- The canonical path of what a path leads to, if it leads anywhere. -/
  canonical? : String → Option String
  /-- The contents of the file at a canonical path, if it is a file of text. -/
  contents? : String → Option String
  /-- The canonical paths of everything there is. -/
  paths : List String
  canonical_mem {path canonical : String} : canonical? path = some canonical → canonical ∈ paths

namespace Tree

/-- There is something at the end of every way. -/
theorem entry?_of_walk {tree : Tree} {names : List String} :
    ∀ {place target : Place}, tree.walk place names = some target →
      ∃ entry, tree.entry? target = some entry := by
  induction names with
  | nil =>
    intro place target h
    rw [walk] at h
    split at h
    · next hsome =>
      cases h
      exact Option.isSome_iff_exists.1 hsome
    · cases h
  | cons name rest ih =>
    intro place target h
    rw [walk] at h
    split at h
    · cases h
    · split at h
      · exact ih h
      · split at h
        · exact ih h
        · exact ih h

/-- The files of a tree as a program sees them that works in a directory. -/
def fileSystem (tree : Tree) (directory : Place) : FileSystem where
  canonical? path := (tree.locate? directory path).map pathOf
  contents? path := tree.contentsAt? path
  paths := tree.entries.keys
  canonical_mem := by
    intro path canonical h
    obtain ⟨place, hplace, rfl⟩ := Option.map_eq_some_iff.1 h
    rw [locate?] at hplace
    split at hplace
    · cases hplace
    · obtain ⟨entry, hentry⟩ := entry?_of_walk hplace
      exact Table.InsertionTable.mem_keys_of_find? hentry

end Tree

end BundleBuilder.Files
