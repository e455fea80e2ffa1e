import BundleBuilder.Proofs.JavaType.NameResolution

/-!
# Positions in types

A position leads from a type to a type inside it, one step for each level: to a type argument, to the
element of an array or to the bound of a wildcard. Resolving the names of a type goes along with
positions (`partAt?_resolve`): what stands at a position afterwards is what stood there before with its
own names resolved. So it is enough to know what happens to a name where it stands.
-/

set_option autoImplicit false

namespace BundleBuilder.JavaType

/-- The types directly inside a type. -/
def children : JavaType → List JavaType
  | .declared _ args => args
  | .array element => [element]
  | .wildcardExtends bound | .wildcardSuper bound => [bound]
  | .primitive _ | .void | .typeVariable _ | .wildcard => []

/-- The type at a position inside a type, given by the number of the child at each level. -/
def partAt? : (position : List Nat) → JavaType → Option JavaType
  | [], type => some type
  | index :: position, type => type.children[index]?.bind (partAt? position)

section Resolve

variable {params : List String} {package : String} {known : List String}

theorem children_resolve (type : JavaType) :
    (type.resolve params package known).children
      = type.children.map (resolve params package known) := by
  cases type with
  | declared name args =>
    rw [resolve_declared]
    split
    · next hbound =>
      rw [children, children, hbound.1, List.map_nil]
    · rfl
  | array element => rfl
  | wildcardExtends bound => rfl
  | wildcardSuper bound => rfl
  | primitive kind => rfl
  | void => rfl
  | typeVariable name => rfl
  | wildcard => rfl

/-- At each position of a resolved type stands what stood there, resolved. -/
theorem partAt?_resolve (position : List Nat) : ∀ type : JavaType,
    (type.resolve params package known).partAt? position
      = (type.partAt? position).map (resolve params package known) := by
  induction position with
  | nil => exact fun _ => rfl
  | cons index position ih =>
    intro type
    rw [partAt?, partAt?, children_resolve, List.getElem?_map]
    cases type.children[index]? with
    | none => rfl
    | some child => exact ih child

end Resolve

end BundleBuilder.JavaType
