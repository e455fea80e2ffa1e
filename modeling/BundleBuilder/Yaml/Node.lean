import BundleBuilder.Yaml.Token

/-!
# Nodes of a document

A document is a tree of scalars, sequences and mappings, each with an optional tag. Anchored nodes
are numbered, and an alias refers to a number. Following the aliases of a node gives a tree without
them. Where that leads deeper than 128 collections, as it does for a node that contains itself, the
tree ends in a mark, so that following always ends.
-/

set_option autoImplicit false

namespace BundleBuilder.Yaml

/-- A node of a document. -/
inductive Node where
  | scalar (text : String) (style : Style) (tag? : Option String)
  | sequence (tag? : Option String) (items : List Node)
  | mapping (tag? : Option String) (entries : List (Node × Node))
  | reference (number : Nat)
  | tooDeep
  deriving Inhabited

/-- The anchored nodes of a document by their numbers. -/
abbrev Anchored := List (Nat × Node)

namespace Node

/-- A plain scalar. -/
def plain (text : String) : Node := .scalar text .plain none

/-- A scalar in quotation marks. -/
def quoted (text : String) : Node := .scalar text .quoted none

/-- The node where nothing is written. -/
def nothing : Node := plain ""

/-- A node with its aliases followed through at most a number of collections. -/
def followed (anchored : Anchored) : (depth : Nat) → Node → Node
  | 0, .scalar text style tag? => .scalar text style tag?
  | 0, _ => .tooDeep
  | depth + 1, node =>
    let follow := fun (node : Node) =>
      match node with
      | .reference number =>
        match anchored.lookup number with
        | some (.scalar text style tag?) => .scalar text style tag?
        | some target => followed anchored depth target
        | none => .tooDeep
      | node => followed anchored depth node
    match node with
    | .scalar text style tag? => .scalar text style tag?
    | .sequence tag? items => .sequence tag? (items.map follow)
    | .mapping tag? entries =>
      .mapping tag? (entries.map fun entry => (follow entry.1, follow entry.2))
    | .reference _ | .tooDeep => .tooDeep

/-- The number of nested collections to which a document is read. -/
def depthLimit : Nat := 128

end Node

end BundleBuilder.Yaml
