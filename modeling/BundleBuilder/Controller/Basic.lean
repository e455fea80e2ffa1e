import BundleBuilder.ClassDecl.Naming
import BundleBuilder.ClassTable.Assignability
import BundleBuilder.Controller.ArgField
import BundleBuilder.JavaType.Printer
import BundleBuilder.Table.Insertion
import BundleBuilder.Table.Sorted

/-!
# Controllers

Everything that is known about a controller class: its names, its argument fields by their variable
names, the keys they are stored under, the codecs they use and the setters that could assign them.
No two fields of a controller share a variable name or a key.
-/

set_option autoImplicit false

namespace BundleBuilder

open Table

/-- A method that could assign a field. -/
structure SetterCandidate where
  name : String
  className : String
  classPackage : String
  visibility : Visibility
  parameters : List JavaType
  deriving DecidableEq

/-- A controller class with its arguments. -/
structure Controller where
  qualifiedName : String
  simpleName : String
  package : String
  binaryName : String
  enclosing : List String
  typeParameters : List TypeParameter
  /-- Whether the superclasses were scanned for arguments. -/
  inherited : Bool
  /-- The required arguments by their variable names. -/
  required : SortedTable ArgField := .empty
  /-- The optional arguments by their variable names. -/
  optional : SortedTable ArgField := .empty
  /-- The variable name of each key. -/
  keys : InsertionTable String := .empty
  /-- The variable of each codec class. -/
  codecs : InsertionTable String := .empty
  /-- The best setter of each name. -/
  setters : InsertionTable SetterCandidate := .empty

namespace Controller

/-- A class without any arguments yet. -/
def ofClass (decl : ClassDecl) (inherited : Bool) : Controller where
  qualifiedName := decl.name
  simpleName := decl.simpleName
  package := decl.package
  binaryName := decl.binaryName
  enclosing := decl.enclosingNames
  typeParameters := decl.typeParameters
  inherited := inherited

/-! ## Arguments -/

/-- The argument of a variable name. -/
def field? (controller : Controller) (varName : String) : Option ArgField :=
  match controller.required.find? varName with
  | some field => some field
  | none => controller.optional.find? varName

/-- The argument that is stored under a key. -/
def fieldOfKey? (controller : Controller) (key : String) : Option ArgField :=
  (controller.keys.find? key).bind controller.field?

/-- A change of a controller in place, which may be refused. What was changed before a refusal stays
changed. -/
abbrev Update := ExceptT ProcessingError (StateM Controller)

/-- The variable of a codec class: the one that it has, or the next free one, which is then its own. -/
def registerCodec (codec : String) : StateM Controller String := do
  match (← get).codecs.find? codec with
  | some varName => return varName
  | none =>
    let varName := "bundler" ++ toString ((← get).codecs.size + 1)
    modify fun controller => { controller with codecs := controller.codecs.insert codec varName }
    return varName

/-- Gives a field the variable of its codec, if it has one. -/
def equip (field : ArgField) : StateM Controller ArgField := do
  match field.codec? with
  | none => return field
  | some codec =>
    let varName ← registerCodec codec
    return { field with codecVariable? := some varName }

/-- Puts a field among the required or the optional arguments. -/
def putField (field : ArgField) (required : Bool) : StateM Controller Unit := do
  modify fun controller => { controller with
    keys := controller.keys.insert field.key field.variableName }
  if required then
    modify fun controller => { controller with
      required := controller.required.insert field.variableName field }
  else
    modify fun controller => { controller with
      optional := controller.optional.insert field.variableName field }

/-- Refuses an argument whose variable name is taken. -/
def checkName (field : ArgField) : Update Unit := do
  if let some existing := (← get).field? field.variableName then
    throw (.duplicateVariable field.variableName field.site existing.site)

/-- Refuses an argument whose key is taken. -/
def checkKey (field : ArgField) : Update Unit := do
  if let some existing := (← get).fieldOfKey? field.key then
    throw (.duplicateKey field.key field.site existing.site)

/-- Adds an argument in place, unless its variable name or its key is taken. -/
def enroll (field : ArgField) (required : Bool) : Update Unit := do
  checkName field
  checkKey field
  let field ← equip field
  putField field required

/-- The controller after an argument was offered, with the error if it was refused. -/
def offer (controller : Controller) (field : ArgField) (required : Bool) :
    Controller × Option ProcessingError :=
  match (enroll field required).run.run controller with
  | (.ok (), controller) => (controller, none)
  | (.error error, controller) => (controller, some error)

/-- The controller after an argument was added, or the error with which it was refused. -/
def add (controller : Controller) (field : ArgField) (required : Bool) :
    Except ProcessingError Controller :=
  match controller.offer field required with
  | (next, none) => .ok next
  | (_, some error) => .error error

/-- Adds a required argument. -/
def addRequired (controller : Controller) (field : ArgField) : Except ProcessingError Controller :=
  controller.add field true

/-- Adds an optional argument. -/
def addOptional (controller : Controller) (field : ArgField) : Except ProcessingError Controller :=
  controller.add field false

/-- All arguments in the order of their variable names. -/
def fields (controller : Controller) : List ArgField :=
  (controller.required.entries.merge controller.optional.entries
    fun a b => decide (a.1 ≤ b.1)).map (·.2)

/-- The number of arguments. -/
def fieldCount (controller : Controller) : Nat :=
  controller.required.size + controller.optional.size

/-! ## Setters -/

/-- Whether a setter is more visible than the one of its name, if there is one. -/
def isMoreVisible (controller : Controller) (candidate : SetterCandidate) : Bool :=
  match controller.setters.find? candidate.name with
  | some existing => !decide (candidate.visibility ≤ existing.visibility)
  | none => true

/-- Remembers a setter. Private methods do not count; of several methods of one name the most
visible one is kept, and among equally visible ones the first. -/
def registerSetter (controller : Controller) (candidate : SetterCandidate) : Controller :=
  if candidate.visibility ≠ .privateAccess ∧ controller.isMoreVisible candidate = true then
    { controller with setters := controller.setters.insert candidate.name candidate }
  else controller

/-- The setter of a name. -/
def setter? (controller : Controller) (name : String) : Option SetterCandidate :=
  controller.setters.find? name

/-- Lets a setter assign the argument of a variable name. -/
def assignSetter (controller : Controller) (varName setter : String) : Controller :=
  let assign := fun (field : ArgField) => { field with setter? := some setter }
  match controller.required.find? varName with
  | some field =>
    { controller with required := controller.required.insert varName (assign field) }
  | none =>
    match controller.optional.find? varName with
    | some field =>
      { controller with optional := controller.optional.insert varName (assign field) }
    | none => controller

/-! ## Names -/

/-- The simple name of the builder of the controller. -/
def builderName (controller : Controller) : String :=
  Text.join "$$" (controller.enclosing ++ [controller.simpleName]) ++ "Builder"

/-- The qualified name of the builder of the controller. -/
def qualifiedBuilderName (controller : Controller) : String :=
  if controller.package = "" then controller.builderName
  else controller.package ++ "." ++ controller.builderName

/-- Whether the controller has type parameters. -/
def isGeneric (controller : Controller) : Bool := !controller.typeParameters.isEmpty

/-- The names of the type parameters. -/
def typeVariableNames (controller : Controller) : List String :=
  controller.typeParameters.map (·.name)

/-- A type parameter with its bounds, as it is declared. -/
def declareTypeParameter (parameter : TypeParameter) : String :=
  if parameter.bounds.isEmpty then parameter.name
  else parameter.name ++ " extends " ++ Text.join " & " (parameter.bounds.map JavaType.text)

/-- The declaration of the controller's type parameters; nothing if it has none. -/
def typeParametersDeclaration (controller : Controller) : String :=
  JavaType.angled (controller.typeParameters.map declareTypeParameter)

/-- The upper bounds of the controller's type variables. -/
def typeBounds (controller : Controller) : TypeBounds :=
  controller.typeParameters.map fun parameter => (parameter.name, parameter.bounds)

end Controller

end BundleBuilder
