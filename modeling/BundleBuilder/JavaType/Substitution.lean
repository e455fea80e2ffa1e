import BundleBuilder.JavaType.Basic

/-!
# Substituting type variables

Bindings give types to type variables. Substitution replaces all bound variables of a type at once;
what a replacement brings in is not replaced again. When a variable is bound twice the later binding
counts.
-/

set_option autoImplicit false

namespace BundleBuilder

/-- Types for type variables, in the order in which they were bound. -/
abbrev Bindings := List (String × JavaType)

namespace Bindings

/-- The entry that was bound last under a name. -/
def lookupLast {α : Type} (name : String) : List (String × α) → Option α
  | [] => none
  | entry :: rest =>
    match lookupLast name rest with
    | some value => some value
    | none => if entry.1 = name then some entry.2 else none

/-- The type bound to a variable. -/
def find? (bindings : Bindings) (name : String) : Option JavaType := lookupLast name bindings

end Bindings

namespace JavaType

mutual

/-- Replaces every bound type variable by its type. -/
def substitute (bindings : Bindings) : JavaType → JavaType
  | .typeVariable name => (bindings.find? name).getD (.typeVariable name)
  | .declared name args => .declared name (substituteAll bindings args)
  | .array element => .array (element.substitute bindings)
  | .wildcardExtends bound => .wildcardExtends (bound.substitute bindings)
  | .wildcardSuper bound => .wildcardSuper (bound.substitute bindings)
  | .primitive kind => .primitive kind
  | .void => .void
  | .wildcard => .wildcard

/-- Substitutes in every member of a list of types. -/
def substituteAll (bindings : Bindings) : List JavaType → List JavaType
  | [] => []
  | type :: types => type.substitute bindings :: substituteAll bindings types

end

end JavaType

end BundleBuilder
