import BundleBuilder.ClassDecl.Naming
import BundleBuilder.ClassTable.Builtin
import BundleBuilder.Files.FileSystem
import BundleBuilder.ModelFile
import BundleBuilder.Table.Unseen

/-!
# Loading class models

A catalog holds the classes of all model files that were loaded. Loading a file loads the files that
it imports first. A file is read at most once, which is remembered when it is opened, so that
files may import each other. Loading stops at the first error and keeps what was loaded before.
-/

set_option autoImplicit false

namespace BundleBuilder

open Table Files

/-- Why a class model cannot be loaded. -/
inductive LoadError where
  | unreadable (path : String)
  | malformed (path : String) (error : Yaml.ReadError)
  | importNotFound (path base : String)
  | duplicateClass (name first second : String)
  | emptyName (path : String)
  | foreignPackage (name package path : String)
  deriving DecidableEq, Repr

/-- The wording of an error about the content of models. -/
def LoadError.message : LoadError → String
  | unreadable path => "failed to read " ++ path
  | malformed path _ => "failed to parse " ++ path
  | importNotFound path base =>
    "import '" ++ path ++ "' not found relative to '" ++ base ++ "' or in include directories"
  | duplicateClass name first second =>
    "class " ++ name ++ " is defined in both " ++ first ++ " and " ++ second
  | emptyName path => "invalid class  in " ++ path ++ ": class name must not be empty"
  | foreignPackage name package path =>
    "invalid class " ++ name ++ " in " ++ path ++ ": package '" ++ package ++
      "' is not a prefix of the class name"

/-- A class with the path of the file that declares it. -/
structure LoadedClass where
  decl : ClassDecl
  origin : String

/-- The classes that were loaded, and the paths of the files that were opened. -/
structure Catalog where
  classes : InsertionTable LoadedClass := .empty
  files : List String := []

/-- Where model files are found: the files, the directory that the program works in, and the
directories in which imports are looked up. -/
structure Library where
  tree : Tree
  directory : Place := []
  includes : List String := []

/-- The files of a library. -/
def Library.files (library : Library) : FileSystem := library.tree.fileSystem library.directory

/-- The paths at which an import is looked up: next to the importing file, then in the include
directories. -/
def importCandidates (includes : List String) (origin path : String) : List String :=
  ((directoryOf? origin).toList ++ includes).map fun directory => appendPath directory path

/-- The canonical path to which an import of a file leads: the first candidate that leads anywhere. -/
def locateImport? (files : FileSystem) (includes : List String) (origin path : String) :
    Option String :=
  (importCandidates includes origin path).findSome? files.canonical?

namespace Catalog

/-- The number of loaded classes. -/
def classCount (catalog : Catalog) : Nat := catalog.classes.size

/-- The number of opened files. -/
def fileCount (catalog : Catalog) : Nat := catalog.files.length

/-- What is wrong with the names in a class declaration. -/
def nameError? (decl : ClassDecl) (origin : String) : Option LoadError :=
  if decl.name = "" then some (.emptyName origin)
  else match decl.package? with
    | none => none
    | some package =>
      if package = "" ∨ Text.hasPrefix (package ++ ".") decl.name = true then none
      else some (.foreignPackage decl.name package origin)

/-- Adds a class, whose name must be new. -/
def add (catalog : Catalog) (decl : ClassDecl) (origin : String) : Except LoadError Catalog :=
  match nameError? decl origin with
  | some error => .error error
  | none =>
    match catalog.classes.find? decl.name with
    | some existing => .error (.duplicateClass decl.name existing.origin origin)
    | none => .ok { catalog with classes := catalog.classes.insert decl.name ⟨decl, origin⟩ }

/-- Adds classes one after the other up to the first error. -/
def addAll (catalog : Catalog) (origin : String) : List ClassDecl → Catalog × Option LoadError
  | [] => (catalog, none)
  | decl :: decls =>
    match catalog.add decl origin with
    | .error error => (catalog, some error)
    | .ok catalog => addAll catalog origin decls

/-- Adding a class opens no file. -/
theorem files_add {catalog next : Catalog} {decl : ClassDecl} {origin : String}
    (h : catalog.add decl origin = .ok next) : next.files = catalog.files := by
  unfold add at h
  split at h
  · cases h
  · split at h
    · cases h
    · cases h
      rfl

/-- Adding classes opens no file. -/
theorem files_addAll (catalog : Catalog) (origin : String) (decls : List ClassDecl) :
    (catalog.addAll origin decls).1.files = catalog.files := by
  induction decls generalizing catalog with
  | nil => rfl
  | cons decl decls ih =>
    unfold addAll
    split
    · rfl
    · next next h => rw [ih, files_add h]

/-! ## Tasks -/

/-- A step of loading: to look up an import of a model and open it, to open the file at a path, or to
add the classes of a model. -/
inductive Task where
  | follow (path origin : String)
  | openFile (path : String)
  | declare (classes : List ClassDecl) (origin : String)

/-- The tasks for a model: its imports in their order, then its classes. -/
def tasksOf (model : ModelFile) (origin : String) : List Task :=
  model.imports.map (Task.follow · origin) ++ [.declare model.classes origin]

/-- How much a task counts towards the end of loading. -/
def Task.weight : Task → Nat
  | follow _ _ => 2
  | openFile _ => 1
  | declare _ _ => 1

/-- The total weight of tasks. -/
def weight : List Task → Nat
  | [] => 0
  | task :: tasks => task.weight + weight tasks

/-- The model in the file at a canonical path, to which a path has led. -/
def readModel (files : FileSystem) (path canonical : String) : Except LoadError ModelFile :=
  match files.contents? canonical with
  | none => .error (.unreadable path)
  | some contents =>
    match ModelFile.read contents with
    | .error error => .error (.malformed canonical error)
    | .ok model => .ok model

/-- The catalog after the file at a canonical path has been opened. -/
def mark (catalog : Catalog) (canonical : String) : Catalog :=
  { catalog with files := canonical :: catalog.files }

/-- Carries out tasks in their order up to the first error. -/
def run (files : FileSystem) (includes : List String) (catalog : Catalog) :
    List Task → Catalog × Option LoadError
  | [] => (catalog, none)
  | .follow path origin :: tasks =>
    match locateImport? files includes origin path with
    | none => (catalog, some (.importNotFound path origin))
    | some canonical => run files includes catalog (.openFile canonical :: tasks)
  | .declare classes origin :: tasks =>
    match _h : catalog.addAll origin classes with
    | (next, some error) => (next, some error)
    | (next, none) => run files includes next tasks
  | .openFile path :: tasks =>
    match _found : files.canonical? path with
    | none => (catalog, some (.unreadable path))
    | some canonical =>
      -- The file is remembered before its imports are followed, so that files may import each other.
      if _seen : catalog.files.contains canonical = true then run files includes catalog tasks
      else
        match readModel files path canonical with
        | .error error => (catalog.mark canonical, some error)
        | .ok model => run files includes (catalog.mark canonical) (tasksOf model canonical ++ tasks)
termination_by tasks => (unseen files.paths catalog.files, weight tasks)
decreasing_by
  · exact Prod.Lex.right _ (by simp [weight, Task.weight])
  · have same := files_addAll catalog origin classes
    rw [_h] at same
    rw [same]
    exact Prod.Lex.right _ (by simp [weight, Task.weight])
  · exact Prod.Lex.right _ (by simp [weight, Task.weight])
  · exact Prod.Lex.left _ _ (unseen_cons_lt (files.canonical_mem _found) (by simpa using _seen))

/-! ## Loading -/

/-- Loads the file at a path of a file system, with everything that it imports. -/
def loadFrom (files : FileSystem) (includes : List String) (catalog : Catalog) (path : String) :
    Catalog × Option LoadError :=
  run files includes catalog [.openFile path]

/-- Loads the file of a library at a path. -/
def loadFile (library : Library) (catalog : Catalog) (path : String) :
    Catalog × Option LoadError :=
  catalog.loadFrom library.files library.includes path

/-- Loads files one after the other up to the first error. -/
def loadFiles (library : Library) (catalog : Catalog) : List String → Catalog × Option LoadError
  | [] => (catalog, none)
  | path :: paths =>
    match loadFile library catalog path with
    | (catalog, some error) => (catalog, some error)
    | (catalog, none) => loadFiles library catalog paths

/-- Loads a model from its text as if it had been read at a path. -/
def loadText (library : Library) (catalog : Catalog) (contents path : String) :
    Catalog × Option LoadError :=
  match ModelFile.read contents with
  | .error error => (catalog, some (.malformed path error))
  | .ok model => run library.files library.includes catalog (tasksOf model path)

/-! ## The class table -/

/-- The type parameters of a class and of the loaded classes around it, at most a number of levels
outwards. -/
def typeParametersWithin (catalog : Catalog) : (levels : Nat) → (name : String) → List String
  | 0, _ => []
  | levels + 1, name =>
    match catalog.classes.find? name with
    | none => []
    | some loaded =>
      loaded.decl.typeParameterNames ++
        match loaded.decl.enclosingClass? with
        | none => []
        | some outer => typeParametersWithin catalog levels outer

/-- The type parameters that may be named inside a class. Every level outwards takes a segment off
the name, so there are at most as many levels as segments. -/
def typeParametersInScope (catalog : Catalog) (name : String) : List String :=
  catalog.typeParametersWithin (Text.segments name).length name

/-- A loaded class with all names in its types resolved. -/
def resolveNames (catalog : Catalog) (decl : ClassDecl) : ClassDecl :=
  let params := catalog.typeParametersInScope decl.name
  decl.mapTypes fun type => (type.normalize params).qualify decl.package catalog.classes.keys

/-- The loaded classes with all names in their types resolved. -/
def resolvedClasses (catalog : Catalog) : List ClassDecl :=
  catalog.classes.values.map fun loaded => catalog.resolveNames loaded.decl

/-- The class table of a platform with the loaded classes. -/
def toTable (catalog : Catalog) (platform : Platform) : ClassTable :=
  (ClassTable.ofPlatform platform).insertAll catalog.resolvedClasses

end Catalog

end BundleBuilder
