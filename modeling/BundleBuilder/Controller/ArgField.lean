import BundleBuilder.ClassDecl.Modifier
import BundleBuilder.JavaType.Basic
import BundleBuilder.ProcessingError
import BundleBuilder.Storage
import BundleBuilder.Text.Dotted

/-!
# Argument fields

A field that is an argument of a controller: where it is declared, its type as the controller sees
it, the key under which it is stored and how it is stored and assigned.
-/

set_option autoImplicit false

namespace BundleBuilder

/-- An upper case letter of ASCII. -/
def isUpperLetter (c : Char) : Bool := decide ('A' ≤ c) && decide (c ≤ 'Z')

/-- The name of a variable for a field: a marker `m` in front of an upper case letter or `_` in
front of a letter is dropped and the letter becomes lower case. -/
def unmarkedName (name : String) : String :=
  match name.toList with
  | marker :: next :: rest =>
    if (marker == 'm' && isUpperLetter next) || (marker == '_' && next.isAlpha) then
      String.ofList (next.toLower :: rest)
    else name
  | _ => name

/-- A field that is an argument of a controller. -/
structure ArgField where
  name : String
  className : String
  classPackage : String
  type : JavaType
  visibility : Visibility
  key : String
  required : Bool
  codec? : Option String := none
  storage? : Option Storage := none
  setter? : Option String := none
  codecVariable? : Option String := none
  deriving DecidableEq

namespace ArgField

/-- The name of the variable for the field. -/
def variableName (field : ArgField) : String := unmarkedName field.name

/-- The field as error messages name it. -/
def site (field : ArgField) : FieldSite := ⟨field.name, field.className⟩

/-- The name by which diagnostics refer to the field. -/
def element (field : ArgField) : String := field.site.element

/-- The simple name of the class that declares the field. -/
def simpleClassName (field : ArgField) : String := Text.simpleName field.className

/-- Whether two fields have the same name, whatever their classes. -/
def sameName (a b : ArgField) : Bool := a.name == b.name

end ArgField

end BundleBuilder
