import BundleBuilder.Controller.Basic
import BundleBuilder.Text.Uppercase

/-!
# Setters for arguments

An argument that the generated builder may not assign directly is assigned by a setter: a method
with a conventional name and one parameter of exactly the argument's type.
-/

set_option autoImplicit false

namespace BundleBuilder

/-- A name with its first letter in upper case. -/
def capitalize (name : String) : String :=
  match name.toList with
  | [] => ""
  | c :: rest => String.ofList (Text.uppercase c ++ rest)

/-- A list without repetitions of neighbours. -/
def withoutRepeats : List String → List String
  | [] => []
  | [name] => [name]
  | name :: next :: rest =>
    if name = next then withoutRepeats (next :: rest) else name :: withoutRepeats (next :: rest)

/-- What follows a marker in a name, if that begins with an upper case letter. -/
def dropMarker? (marker name : String) : Option String :=
  match Text.dropPrefix? marker name with
  | some rest => if rest.toList.head?.any isUpperLetter then some rest else none
  | none => none

namespace ArgField

/-- The names that a setter of the field may have, in the order in which they are tried. -/
def setterNames (field : ArgField) : List String :=
  let marked :=
    match dropMarker? "m" field.name with
    | some _ => ["set" ++ field.name, "set" ++ capitalize field.name]
    | none => []
  let affirmed :=
    match dropMarker? "is" field.name with
    | some rest => ["set" ++ rest]
    | none => []
  withoutRepeats (("set" ++ capitalize field.variableName) :: (marked ++ affirmed))

/-- The setter that a complete error message proposes. -/
def proposedSetter (field : ArgField) : String :=
  field.setterNames.head?.getD "" ++ "(" ++ field.type.text ++ ")"

end ArgField

namespace Controller

/-- Whether an argument cannot be assigned directly from the controller's package. -/
def needsSetter (controller : Controller) (field : ArgField) : Bool :=
  !field.visibility.permits field.classPackage controller.package

/-- Whether a method can assign an argument from the controller's package. -/
def accepts (controller : Controller) (field : ArgField) (candidate : SetterCandidate) : Bool :=
  decide (candidate.parameters = [field.type]) &&
    candidate.visibility.permits candidate.classPackage controller.package

/-- The name of the setter that assigns an argument. -/
def resolveSetter (controller : Controller) (field : ArgField) : Except ProcessingError String :=
  match field.setterNames.find? fun name =>
      (controller.setter? name).any (controller.accepts field) with
  | some name => .ok name
  | none => .error (.missingSetter field.site field.simpleClassName field.proposedSetter)

/-- The setters of the fields of a list that need one, with the variable names of the fields. -/
def setterAssignments (controller : Controller) :
    List ArgField → Except ProcessingError (List (String × String))
  | [] => .ok []
  | field :: fields =>
    if controller.needsSetter field then
      match controller.resolveSetter field with
      | .error error => .error error
      | .ok setter =>
        match setterAssignments controller fields with
        | .error error => .error error
        | .ok assignments => .ok ((field.variableName, setter) :: assignments)
    else setterAssignments controller fields

/-- Gives every argument that needs a setter its setter. -/
def resolveSetters (controller : Controller) : Except ProcessingError Controller :=
  match controller.setterAssignments controller.fields with
  | .error error => .error error
  | .ok assignments =>
    .ok (assignments.foldl (fun controller entry => controller.assignSetter entry.1 entry.2)
      controller)

end Controller

end BundleBuilder
