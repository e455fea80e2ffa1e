/-!
# Errors of processing

The ways in which a controller can fail to be processed. Each error belongs to one element of the
class model: a class, or a field of a class.
-/

set_option autoImplicit false

namespace BundleBuilder

/-- A field as error messages name it: its name and its class. -/
structure FieldSite where
  field : String
  className : String
  deriving DecidableEq, Repr

/-- The name by which diagnostics refer to a field. -/
def FieldSite.element (site : FieldSite) : String := site.className ++ "#" ++ site.field

/-- Why a controller cannot be processed. -/
inductive ProcessingError where
  /-- Two fields have the same variable name. -/
  | duplicateVariable (varName : String) (field existing : FieldSite)
  /-- Two fields have the same key. -/
  | duplicateKey (key : String) (field existing : FieldSite)
  /-- A bundle cannot hold values of the type of a field. -/
  | unsupportedType (site : FieldSite) (simpleClass type : String)
  /-- A field that cannot be assigned directly has no setter. -/
  | missingSetter (site : FieldSite) (simpleClass signature : String)
  /-- A class is no valid codec for a field. -/
  | invalidCodec (element message : String)
  /-- A class or field does not have the form that its marker asks for. -/
  | structural (element message : String)
  /-- A generated unit cannot be written. -/
  | unwritable (element path reason : String)
  deriving DecidableEq, Repr

namespace ProcessingError

/-- The element that an error belongs to. -/
def element : ProcessingError → String
  | duplicateVariable _ field _ => field.element
  | duplicateKey _ field _ => field.element
  | unsupportedType site _ _ => site.element
  | missingSetter site _ _ => site.element
  | invalidCodec element _ => element
  | structural element _ => element
  | unwritable element _ _ => element

/-- The wording of an error. -/
def message : ProcessingError → String
  | duplicateVariable varName field existing =>
    "A field with the name '" ++ varName ++ "' already exists in class " ++ existing.className ++
      " (field '" ++ existing.field ++ "'). The field '" ++ field.field ++ "' in class " ++
      field.className ++ " clashes with it; rename one of them"
  | duplicateKey key field existing =>
    "The bundle key '" ++ key ++ "' used by field '" ++ field.field ++ "' in class " ++
      field.className ++ " is already used by field '" ++ existing.field ++ "' in class " ++
      existing.className ++ ". Use @Arg(key = \"...\") to choose a different key"
  | unsupportedType site simpleClass type =>
    "Don't know how to put " ++ type ++ " in a Bundle (field '" ++ site.field ++ "' in class " ++
      simpleClass ++ "). This type is not supported by default; supply a custom codec with " ++
      "@Arg(bundler = ...)"
  | missingSetter site simpleClass signature =>
    "The @Arg annotated field '" ++ site.field ++ "' in class " ++ simpleClass ++
      " is not accessible from the generated builder. Hence a corresponding non-private setter " ++
      "method must be provided called '" ++ signature ++
      "'. Please add a setter method for this field!"
  | invalidCodec _ message => message
  | structural _ message => message
  | unwritable _ path reason => "Unable to write " ++ path ++ ": " ++ reason

end ProcessingError

end BundleBuilder
