import BundleBuilder.ClassDecl.Naming
import BundleBuilder.ClassTable.Basic
import BundleBuilder.JavaType.Basic
import BundleBuilder.Table.Sorted

/-!
# Names inside a generated unit

A class is written by its simple name if the unit imports it or if it is a top-level class of
`java.lang`, and relative to the package of the unit if it lives there and no import has the name
with which it would begin. Any other class is written in full.
-/

set_option autoImplicit false

namespace BundleBuilder.Java

open Table

/-- What decides how the names of classes are written in a unit: its package, the known classes, the
imported classes with their simple names, and further classes of its package. -/
structure NameScope where
  package : String
  table : ClassTable
  imported : SortedTable String := .empty
  locals : List String := []

namespace NameScope

/-- The scope with a further class of the package. -/
def declareLocal (scope : NameScope) (qualified : String) : NameScope :=
  { scope with locals := qualified :: scope.locals }

/-- The scope with a further import. -/
def addImport (scope : NameScope) (qualified : String) : NameScope :=
  { scope with imported := scope.imported.insert qualified (Text.simpleName qualified) }

/-- The imported classes in alphabetical order. -/
def imports (scope : NameScope) : List String := scope.imported.keys

/-- Whether a class lives in the package of the unit. -/
def isOwn (scope : NameScope) (qualified : String) : Bool :=
  scope.locals.contains qualified ||
    (scope.table.find? qualified).any fun decl => decl.package == scope.package

/-- Whether an import has the name with which a relative name begins. -/
def isShadowed (scope : NameScope) (relative : String) : Bool :=
  scope.imported.values.any fun simple => some simple == (Text.segments relative).head?

/-- The simple name of a top-level class of the language. -/
def languageName? (qualified : String) : Option String :=
  match Text.dropPrefix? "java.lang." qualified with
  | some rest => if Text.isQualified rest then none else some rest
  | none => none

/-- The name of a class relative to the package of the unit. -/
def relativeName? (scope : NameScope) (qualified : String) : Option String :=
  if scope.package = "" ∨ ¬ scope.isOwn qualified then none
  else match Text.dropPrefix? (scope.package ++ ".") qualified with
    | some relative => if scope.isShadowed relative then none else some relative
    | none => none

/-- The name by which a class is written. -/
def name (scope : NameScope) (qualified : String) : String :=
  match scope.imported.find? qualified with
  | some simple => simple
  | none =>
    match languageName? qualified with
    | some simple => simple
    | none => (scope.relativeName? qualified).getD qualified

mutual

/-- The text of a type in the unit. -/
def render (scope : NameScope) : JavaType → String
  | .primitive kind => kind.keyword
  | .void => "void"
  | .typeVariable name => name
  | .array element => scope.render element ++ "[]"
  | .wildcard => "?"
  | .wildcardExtends bound => "? extends " ++ scope.render bound
  | .wildcardSuper bound => "? super " ++ scope.render bound
  | .declared name args =>
    let rendered := scope.name name
    if args.isEmpty then rendered
    else rendered ++ "<" ++ Text.join ", " (scope.renderAll args) ++ ">"

/-- The texts of type arguments in the unit. -/
def renderAll (scope : NameScope) : List JavaType → List String
  | [] => []
  | arg :: args => scope.render arg :: scope.renderAll args

end

end NameScope

end BundleBuilder.Java
