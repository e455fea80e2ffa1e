import BundleBuilder.CommandLine

/-!
# The program

The command line program. It takes the files that a command may read into a tree, carries the
command out on that tree, and writes the files that the command has changed.
-/

set_option autoImplicit false

open BundleBuilder
open BundleBuilder.Files

/-- What stands at a path on the disk. -/
def entryOnDisk? (path : String) : IO (Option Entry) := do
  try
    let real ← IO.FS.realPath path
    if ← real.isDir then return some .directory
    let bytes ← IO.FS.readBinFile real
    return some (.file (String.fromUTF8? bytes))
  catch _ => return none

/-- Takes what stands on the way along names into a tree, as far as it exists. -/
def observeNames (tree : Tree) (place : Place) : List String → IO Tree
  | [] => return tree
  | name :: rest => do
    let next :=
      if name = "" ∨ name = "." then place
      else if name = ".." then place.dropLast
      else place ++ [name]
    match ← entryOnDisk? (pathOf next) with
    | some entry => observeNames (tree.put next entry) next rest
    | none => return tree

/-- Takes what stands on the way along a path into a tree. -/
def observe (tree : Tree) (directory : Place) (path : String) : IO Tree := do
  let root ← observeNames tree [] [""]
  if isAbsolute path then observeNames root [] (names path)
  else observeNames root [] (directory ++ names path)

/-- The paths that a model file at a place may import from. -/
def importPaths (library : Library) (place : Place) : List String :=
  match (library.tree.read? place).map ModelFile.read with
  | some (.ok model) =>
    model.imports.flatMap (importCandidates library.includes (pathOf place))
  | _ => []

/-- Takes the given files and everything that they import into the tree of a library. -/
partial def observeModels (library : Library) (seen : List Place) :
    List String → IO Library
  | [] => return library
  | path :: paths => do
    let library := { library with tree := ← observe library.tree library.directory path }
    match library.tree.locate? library.directory path with
    | some place =>
      if seen.contains place then observeModels library seen paths
      else observeModels library (place :: seen) (importPaths library place ++ paths)
    | none => observeModels library seen paths

/-- The inputs of a command. -/
def inputsOf : CommandLine.Command → CommandLine.Inputs
  | .codegen inputs _ _ => inputs
  | .analyze inputs _ => inputs

/-- The tree of all files that a command may read. -/
def treeFor (directory : Place) (words : List String) : IO Tree := do
  match CommandLine.readRequest words with
  | .ok (.command command) =>
    let inputs := inputsOf command
    let tree ← observe .empty directory "."
    let library ← observeModels ⟨tree, directory, inputs.includes⟩ [] inputs.files
    match inputs.config? with
    | some path => observe library.tree directory path
    | none => return library.tree
  | _ => return .empty

/-- The files that a command has changed. -/
def changedFiles (before after : Tree) : List (String × String) :=
  after.files.filterMap fun entry =>
    match entry.2 with
    | some contents =>
      if before.entries.find? entry.1 = some (.file (some contents)) then none
      else some (entry.1, contents)
    | none => none

/-- Writes a file with the directories on the way to it. -/
def writeToDisk (path contents : String) : IO Unit := do
  if let some directory := directoryOf? path then IO.FS.createDirAll directory
  IO.FS.writeFile path contents

/-- Carries out the words of the command line. -/
def main (words : List String) : IO UInt32 := do
  let directory := (names (toString (← IO.currentDir))).filter (· ≠ "")
  let tree ← treeFor directory words
  let planned := CommandLine.run tree directory words
  let tree ← (changedFiles tree planned.tree).foldlM
    (fun tree entry => observe tree directory entry.1) tree
  let outcome := CommandLine.run tree directory words
  for entry in changedFiles tree outcome.tree do
    writeToDisk entry.1 entry.2
  IO.print outcome.output
  for diagnostic in outcome.diagnostics do
    IO.eprintln diagnostic.line
  if let some error := outcome.error? then
    IO.eprintln ("Error: " ++ error.message)
  return outcome.code.toUInt32
