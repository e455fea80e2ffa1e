import BundleBuilder.ClassTable.Supertype

/-!
# Assignability

Whether a value of one type may be assigned to a variable of another one: boxing of primitives,
supertypes with their type arguments, raw types, containment of wildcards, arrays, and type
variables through their upper bounds. Type arguments are otherwise invariant.

Generic hierarchies can make the rules call for each other without end: a class whose supertype
mentions the class itself below a lower bounded wildcard asks the same question again. The rules are
therefore given with a depth to which they are followed, and `assignableWithin` answers `none` where
that depth is not enough; a deeper search never changes an answer. `assignability?` follows the rules
to a depth that grows with the sizes of the types and with the number of type variables, and deeper
and deeper where that is not enough. Like the rules, it comes to no end where there is no answer, and
is `none` there as a function. `isAssignable` is its answer; where there is none, its value stands for
nothing, and what holds of such a question is said with `assignability?` or with a depth.
-/

set_option autoImplicit false

namespace BundleBuilder

/-- The upper bounds of the type variables in scope. -/
abbrev TypeBounds := List (String × List JavaType)

namespace TypeBounds

/-- The upper bounds of a type variable, if it is in scope. -/
def find? (bounds : TypeBounds) (name : String) : Option (List JavaType) :=
  Bindings.lookupLast name bounds

end TypeBounds

namespace ClassTable

/-- Whether a type is the root of the class hierarchy. -/
def isObject (type : JavaType) : Bool := type == .named objectName

/-- Whether the type argument `target` admits the type argument `source`, where `assignable` answers
the questions about their bounds. -/
def admits (assignable : JavaType → JavaType → Option Bool) (target source : JavaType) :
    Option Bool :=
  match target with
  | .wildcard => some true
  | .wildcardExtends bound =>
    match source with
    | .wildcardExtends inner => assignable inner bound
    | .wildcard | .wildcardSuper _ => some (isObject bound)
    | other => assignable other bound
  | .wildcardSuper bound =>
    match source with
    | .wildcardSuper inner => assignable bound inner
    | .wildcard | .wildcardExtends _ => some false
    | other => assignable bound other
  | exact => some (exact == source)

/-- Whether every type argument of `targets` admits its counterpart in `sources`. -/
def admitsAll (assignable : JavaType → JavaType → Option Bool) :
    (targets sources : List JavaType) → Option Bool
  | target :: targets, source :: sources =>
    match admits assignable target source with
    | some true => admitsAll assignable targets sources
    | answer => answer
  | _, _ => some true

/-- Whether some type of `sources` may be assigned to `target`. -/
def anyAssignable (assignable : JavaType → JavaType → Option Bool) (target : JavaType) :
    (sources : List JavaType) → Option Bool
  | [] => some false
  | source :: sources =>
    match assignable source target with
    | some false => anyAssignable assignable target sources
    | answer => answer

/-- Whether a declared type that was viewed as an instance of the target's class has type arguments
that the target admits. A raw type on either side is accepted. -/
def admitsView (assignable : JavaType → JavaType → Option Bool) (targetArgs : List JavaType) :
    Option JavaType → Option Bool
  | some (.declared _ args) =>
    if targetArgs.isEmpty || args.isEmpty then some true
    else if args.length = targetArgs.length then admitsAll assignable targetArgs args
    else some false
  | _ => some false

/-- Whether a value of type `source` may be assigned to a variable of type `target`, with the rules
followed to the given depth. -/
def assignableWithin (table : ClassTable) (bounds : TypeBounds) :
    (depth : Nat) → (source target : JavaType) → Option Bool
  | 0, _, _ => none
  | depth + 1, source, target =>
    let assignable := assignableWithin table bounds depth
    match source, target with
    -- Neither `void` nor a wildcard is the type of a value.
    | .void, _ | _, .void => some false
    | .wildcard, _ | .wildcardExtends _, _ | .wildcardSuper _, _ => some false
    | _, .wildcard | _, .wildcardExtends _ | _, .wildcardSuper _ => some false
    -- A primitive meets a reference type through its box; nothing is unboxed or widened.
    | .primitive a, .primitive b => some (a == b)
    | .primitive kind, target => assignable (.named kind.boxName) target
    | _, .primitive _ => some false
    -- From here on both sides are reference types, and every one of them is an object.
    | .typeVariable name, target =>
      if isObject target || target == .typeVariable name then some true
      else anyAssignable assignable target ((bounds.find? name).getD [])
    | _, .typeVariable _ => some false
    -- Arrays of references are covariant, arrays of primitives are not.
    | .array (.primitive a), .array (.primitive b) => some (a == b)
    | .array (.primitive _), .array _ | .array _, .array (.primitive _) => some false
    | .array a, .array b => assignable a b
    | .array _, .declared name args =>
      some (isObject target ||
        (args.isEmpty && (name == "java.lang.Cloneable" || name == "java.io.Serializable")))
    | .declared .., .declared name args =>
      if isObject target then some true
      else admitsView assignable args (table.supertypeAs? source name)
    | .declared .., .array _ => some false

/-- A depth that suffices wherever the rules only descend into the types and go from variables to
bounds, with room to spare for hierarchies that turn a question around. -/
def assignabilityDepth (bounds : TypeBounds) (source target : JavaType) : Nat :=
  (source.size + target.size + 2) * (bounds.length + 2) + 4096

/-- A search that is followed to a given depth, and has an answer where that depth is enough. -/
abbrev SearchByDepth (α : Type) := Nat → Option α

/-- The answer of a search at the given depth or, where that is not enough, at a greater one. -/
def SearchByDepth.deepen? {α : Type} (search : SearchByDepth α) (depth : Nat) : Option α :=
  match search depth with
  | some answer => some answer
  | none => search |>.deepen? (16 * (depth + 1))
partial_fixpoint

/-- Whether a value of type `source` may be assigned to a variable of type `target`, where the rules
lead to an answer. -/
def assignability? (table : ClassTable) (bounds : TypeBounds) (source target : JavaType) :
    Option Bool :=
  let depth := assignabilityDepth bounds source target
  match assignableWithin table bounds depth source target with
  | some answer => some answer
  | none =>
    SearchByDepth.deepen? (fun depth => assignableWithin table bounds depth source target)
      (16 * depth)

/-- Whether a value of type `source` may be assigned to a variable of type `target`. The value is
meant where the rules lead to an answer, and arbitrary elsewhere. -/
def isAssignable (table : ClassTable) (bounds : TypeBounds) (source target : JavaType) : Bool :=
  (assignability? table bounds source target).getD false

end ClassTable

end BundleBuilder
