import BundleBuilder.Controller.Basic
import BundleBuilder.Java.Literal
import BundleBuilder.Java.NameScope

/-!
# What a builder is written from

The controller, the platform and the names inside the builder's unit. With support annotations every
reference that a generated method takes or returns says whether it may be null.
-/

set_option autoImplicit false

namespace BundleBuilder.Java

/-- The two annotations that say whether a reference may be null. -/
structure NullMarks where
  nonNull : String
  nullable : String

/-- What a builder is written from. -/
structure BuilderScope where
  controller : Controller
  platform : Platform
  names : NameScope
  marks? : Option NullMarks
  annotations : List String

namespace BuilderScope

/-- The names in the unit of a builder before support annotations are imported. -/
def baseNames (controller : Controller) (platform : Platform) (table : ClassTable) : NameScope :=
  let names := (NameScope.mk controller.package table .empty []).addImport platform.bundleClass
  if controller.enclosing.isEmpty then names.declareLocal controller.qualifiedName
  else names.addImport controller.qualifiedName

/-- The scope of a builder. Support annotations are taken from a package, if one is given. -/
def ofController (controller : Controller) (platform : Platform) (table : ClassTable)
    (supportPackage? : Option String) (annotations : List String) : BuilderScope :=
  let names := baseNames controller platform table
  let annotations := annotations.map annotationText
  match supportPackage? with
  | none => { controller, platform, names, marks? := none, annotations }
  | some package =>
    let nonNull := package ++ ".NonNull"
    let nullable := package ++ ".Nullable"
    let names := (names.addImport nonNull).addImport nullable
    let marks : NullMarks := ⟨"@" ++ names.name nonNull, "@" ++ names.name nullable⟩
    { controller, platform, names, marks? := some marks, annotations }

section OfController

variable (controller : Controller) (platform : Platform) (table : ClassTable)
  (supportPackage? : Option String) (annotations : List String)

theorem controller_ofController :
    (ofController controller platform table supportPackage? annotations).controller
      = controller := by
  cases supportPackage? <;> rfl

theorem platform_ofController :
    (ofController controller platform table supportPackage? annotations).platform = platform := by
  cases supportPackage? <;> rfl

end OfController

/-- The name of the controller class. -/
def controllerName (scope : BuilderScope) : String :=
  scope.names.name scope.controller.qualifiedName

/-- The name of the bundle class. -/
def bundleName (scope : BuilderScope) : String := scope.names.name scope.platform.bundleClass

/-- The type of the builder, with its type variables. -/
def builderType (scope : BuilderScope) : String :=
  scope.controller.builderName ++ JavaType.angled scope.controller.typeVariableNames

/-- The type parameters in front of the result type of a static method. -/
def methodTypeParameters (scope : BuilderScope) : String :=
  let declaration := scope.controller.typeParametersDeclaration
  if declaration = "" then "" else declaration ++ " "

/-- The annotations of a method that never returns null. -/
def nonNullResult (scope : BuilderScope) : List String :=
  (scope.marks?.map (·.nonNull)).toList

/-- An argument as a parameter of a method. -/
def parameter (scope : BuilderScope) (field : ArgField) : String :=
  let plain := scope.names.render field.type ++ " " ++ field.variableName
  match scope.marks? with
  | none => plain
  | some marks =>
    if field.type.isPrimitive then plain
    else (if field.required then marks.nonNull else marks.nullable) ++ " " ++ plain

/-- A list of arguments as the parameters of a method. -/
def parameters (scope : BuilderScope) (fields : List ArgField) : String :=
  Text.join ", " (fields.map scope.parameter)

end BuilderScope

end BundleBuilder.Java
