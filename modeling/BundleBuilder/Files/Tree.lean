import BundleBuilder.Table.Insertion
import BundleBuilder.Text.Dotted

/-!
# File trees

The files and directories that a program works with, as a value. A place in the tree is the list of
the names on the way from the root. A path is followed name by name: every place on the way but the
last must be a directory, a single dot stays where it is and two dots go back to the directory
above.
-/

set_option autoImplicit false

namespace BundleBuilder.Files

open Table

/-- A place in a tree: the names on the way from the root. -/
abbrev Place := List String

/-- The absolute path of a place. -/
def pathOf (place : Place) : String := "/" ++ Text.join "/" place

/-- The names in a path. -/
def names (path : String) : List String := Text.split '/' path

/-- Whether a path begins at the root. -/
def isAbsolute (path : String) : Bool := path.toList.head? == some '/'

/-- Puts a further part behind a path; a part that begins at the root replaces it. -/
def appendPath (path part : String) : String :=
  if isAbsolute part then part
  else if path = "" ∨ path.toList.getLast? = some '/' then path ++ part
  else path ++ "/" ++ part

/-- The path of the directory in which a path lies; nothing for the empty path and the root. -/
def directoryOf? (path : String) : Option String :=
  let start := if isAbsolute path then "/" else ""
  match (names path).filter fun name => name ≠ "" ∧ name ≠ "." with
  | [] => if path = "" ∨ isAbsolute path = true then none else some ""
  | proper => some (start ++ Text.join "/" proper.dropLast)

/-- What is at a place: a directory, or a file with its contents if those are text. -/
inductive Entry where
  | directory
  | file (contents? : Option String)
  deriving DecidableEq, Repr

/-- Directories and files by their absolute paths. -/
structure Tree where
  entries : InsertionTable Entry

namespace Tree

/-- The tree in which not even a root exists. -/
def empty : Tree := ⟨.empty⟩

/-- What is at a place. -/
def entry? (tree : Tree) (place : Place) : Option Entry := tree.entries.find? (pathOf place)

/-- Whether a place is a directory. -/
def isDirectory (tree : Tree) (place : Place) : Bool := tree.entry? place == some .directory

/-- The tree with an entry at a place. -/
def put (tree : Tree) (place : Place) (entry : Entry) : Tree :=
  ⟨tree.entries.insert (pathOf place) entry⟩

/-- The contents of the file at an absolute path, if it is text. -/
def contentsAt? (tree : Tree) (path : String) : Option String :=
  match tree.entries.find? path with
  | some (.file contents?) => contents?
  | _ => none

/-- The contents of a file that is text. -/
def read? (tree : Tree) (place : Place) : Option String := tree.contentsAt? (pathOf place)

/-! ## Following paths -/

/-- Follows names from a place; the result exists if there is one. -/
def walk (tree : Tree) (place : Place) : List String → Option Place
  | [] => if (tree.entry? place).isSome then some place else none
  | name :: rest =>
    if !tree.isDirectory place then none
    else if name = "" ∨ name = "." then walk tree place rest
    -- Going back leads to the directory above the place reached, as places are free of links.
    else if name = ".." then walk tree place.dropLast rest
    else walk tree (place ++ [name]) rest

/-- The place that a path names for a program that works in a directory. The empty path names
nothing. -/
def locate? (tree : Tree) (directory : Place) (path : String) : Option Place :=
  if path = "" then none
  else tree.walk (if isAbsolute path then [] else directory) (names path)

/-! ## Writing -/

/-- Whether a name may be given to a file or directory. -/
def isValidName (name : String) : Bool :=
  decide (name.utf8ByteSize ≤ 255) && !name.toList.contains '\x00'

/-- Makes the directories on the way along names that do not exist yet. -/
def makeDirectories (tree : Tree) (place : Place) : List String → Option (Tree × Place)
  | [] => if tree.isDirectory place then some (tree, place) else none
  | name :: rest =>
    if !tree.isDirectory place then none
    else if name = "" ∨ name = "." then makeDirectories tree place rest
    else if name = ".." then makeDirectories tree place.dropLast rest
    else
      let child := place ++ [name]
      match tree.entry? child with
      | some _ => makeDirectories tree child rest
      | none =>
        if isValidName name then makeDirectories (tree.put child .directory) child rest else none

/-- Writes a file at a path together with the directories on the way. A file is replaced; a
directory cannot be. -/
def write? (tree : Tree) (directory : Place) (path : String) (contents? : Option String) :
    Option Tree :=
  let name := (names path).getLast?.getD ""
  match tree.makeDirectories (if isAbsolute path then [] else directory) (names path).dropLast with
  | none => none
  | some (tree, parent) =>
    if name = "" ∨ name = "." ∨ name = ".." ∨ isValidName name = false then none
    else if tree.isDirectory (parent ++ [name]) then none
    else some (tree.put (parent ++ [name]) (.file contents?))

/-- The files of a tree, each with its contents if those are text. -/
def files (tree : Tree) : List (String × Option String) :=
  tree.entries.entries.filterMap fun entry =>
    match entry.2 with
    | .file contents? => some (entry.1, contents?)
    | .directory => none

end Tree

end BundleBuilder.Files
