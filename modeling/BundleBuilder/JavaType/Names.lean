import BundleBuilder.JavaType.Basic
import BundleBuilder.Text.Dotted

/-!
# Resolving the names in a type

A freshly read type knows only names. Normalising it binds the bare names of type parameters to type
variables and gives the implicitly imported classes their qualified names. Qualifying it completes
simple names of classes that live in a given package.
-/

set_option autoImplicit false

namespace BundleBuilder.JavaType

/-- Simple names that denote a class of `java.lang` without an import. -/
def implicitImports : List String :=
  ["Object", "String", "CharSequence", "Boolean", "Byte", "Character", "Short", "Integer", "Long",
    "Float", "Double", "Number", "Cloneable", "Comparable", "Enum", "Iterable"]

/-- The qualified name of an implicitly imported class; every other name stays as it is. -/
def importImplicitly (name : String) : String :=
  if implicitImports.contains name then "java.lang." ++ name else name

mutual

/-- Binds type parameters and qualifies implicitly imported classes. -/
def normalize (params : List String) : JavaType → JavaType
  | .declared name args =>
    if args.isEmpty && params.contains name then .typeVariable name
    else .declared (importImplicitly name) (normalizeAll params args)
  | .array element => .array (element.normalize params)
  | .wildcardExtends bound => .wildcardExtends (bound.normalize params)
  | .wildcardSuper bound => .wildcardSuper (bound.normalize params)
  | .primitive kind => .primitive kind
  | .void => .void
  | .typeVariable name => .typeVariable name
  | .wildcard => .wildcard

/-- Normalises every member of a list of types. -/
def normalizeAll (params : List String) : List JavaType → List JavaType
  | [] => []
  | type :: types => type.normalize params :: normalizeAll params types

end

mutual

/-- Replaces every declared name by its image under `rename`. -/
def mapNames (rename : String → String) : JavaType → JavaType
  | .declared name args => .declared (rename name) (mapNamesAll rename args)
  | .array element => .array (element.mapNames rename)
  | .wildcardExtends bound => .wildcardExtends (bound.mapNames rename)
  | .wildcardSuper bound => .wildcardSuper (bound.mapNames rename)
  | .primitive kind => .primitive kind
  | .void => .void
  | .typeVariable name => .typeVariable name
  | .wildcard => .wildcard

/-- Replaces the declared names in every member of a list of types. -/
def mapNamesAll (rename : String → String) : List JavaType → List JavaType
  | [] => []
  | type :: types => type.mapNames rename :: mapNamesAll rename types

end

/-- The name of a class of the package, if the simple name denotes one; otherwise the name. -/
def qualifyName (package : String) (known : List String) (name : String) : String :=
  let candidate := package ++ "." ++ name
  if package ≠ "" ∧ ¬ Text.isQualified name ∧ candidate ∈ known then candidate else name

/-- Qualifies the simple names of a type that denote known classes of a package. -/
def qualify (package : String) (known : List String) (type : JavaType) : JavaType :=
  type.mapNames (qualifyName package known)

/-- A type without its type arguments. -/
def erase : JavaType → JavaType
  | .declared name _ => .declared name []
  | type => type

end BundleBuilder.JavaType
