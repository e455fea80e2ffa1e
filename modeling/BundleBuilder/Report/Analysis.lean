import BundleBuilder.Generation
import BundleBuilder.Report.Json

/-!
# Reports of an analysis

What a run found out about the controllers, as a record in JSON notation or as a text for reading.
-/

set_option autoImplicit false

namespace BundleBuilder.Report

/-! ## Records -/

/-- A storage as a value. -/
def storageRecord : Storage → Json
  | .single kind => .record [("Scalar", .text kind.word)]
  | .array kind => .record [("Array", .text kind.word)]
  | .stringList => .text "StringArrayList"
  | .integerList => .text "IntegerArrayList"
  | .charSequenceList => .text "CharSequenceArrayList"
  | .parcelableList => .text "ParcelableArrayList"
  | .sparseParcelables => .text "SparseParcelableArray"
  | .serializable => .text "Serializable"

/-- An argument as a record. -/
def fieldRecord (field : ArgField) : Json :=
  .record
    [ ("name", .text field.name),
      ("class_name", .text field.className),
      ("class_package", .text field.classPackage),
      ("field_type", .text field.type.text),
      ("visibility", .text field.visibility.word),
      ("key", .text field.key),
      ("required", .bool field.required),
      ("bundler", .ofText? field.codec?),
      ("payload", (field.storage?.map storageRecord).getD .null),
      ("setter", .ofText? field.setter?),
      ("bundler_var", .ofText? field.codecVariable?) ]

/-- A setter as a record. -/
def setterRecord (candidate : SetterCandidate) : Json :=
  .record
    [ ("name", .text candidate.name),
      ("class_name", .text candidate.className),
      ("class_package", .text candidate.classPackage),
      ("visibility", .text candidate.visibility.word),
      ("parameters", .ofTexts (candidate.parameters.map JavaType.text)) ]

/-- A type parameter as a record. -/
def typeParameterRecord (parameter : TypeParameter) : Json :=
  .record
    [ ("name", .text parameter.name),
      ("bounds", .ofTexts (parameter.bounds.map JavaType.text)) ]

/-- A table of values as a record. -/
def tableRecord {α : Type} (value : α → Json) (entries : List (String × α)) : Json :=
  .record (entries.map fun entry => (entry.1, value entry.2))

/-- A controller as a record. -/
def controllerRecord (controller : Controller) : Json :=
  .record
    [ ("qualified_name", .text controller.qualifiedName),
      ("simple_name", .text controller.simpleName),
      ("package", .text controller.package),
      ("binary_name", .text controller.binaryName),
      ("enclosing", .ofTexts controller.enclosing),
      ("type_parameters", .list (controller.typeParameters.map typeParameterRecord)),
      ("inherited", .bool controller.inherited),
      ("required", tableRecord fieldRecord controller.required.entries),
      ("optional", tableRecord fieldRecord controller.optional.entries),
      ("keys", tableRecord .text controller.keys.entries),
      ("bundlers", tableRecord .text controller.codecs.entries),
      ("setters", tableRecord setterRecord controller.setters.entries) ]

/-- A route of the dispatch class as a record. -/
def routeRecord (route : Java.Route) : Json :=
  .record [("controller", .text route.controller), ("builder", .text route.builder)]

/-- A diagnostic as a record. -/
def diagnosticRecord (diagnostic : Diagnostic) : Json :=
  .record
    [ ("level", .text diagnostic.severity.word),
      ("message", .text diagnostic.message),
      ("element", .ofText? diagnostic.element?) ]

/-- A run as a record. -/
def generationRecord (generation : Generation) : Json :=
  .record
    [ ("models", .list (generation.controllers.map controllerRecord)),
      ("dispatch", tableRecord routeRecord generation.routes.entries),
      ("diagnostics", .list (generation.diagnostics.entries.map diagnosticRecord)) ]

/-! ## Text -/

/-- A text filled up with spaces to a width. -/
def padded (width : Nat) (text : String) : String :=
  text ++ String.ofList (List.replicate (width - text.length) ' ')

/-- How an argument is stored. -/
def storageText (field : ArgField) : String :=
  match field.codec?, field.storage? with
  | some codec, _ => "via " ++ codec
  | none, some storage => "put" ++ storage.operation
  | none, none => "unsupported"

/-- How an argument is assigned. -/
def assignmentText (field : ArgField) : String :=
  match field.setter? with
  | some setter => setter ++ "()"
  | none => "field " ++ field.name

/-- The line for an argument. -/
def fieldLine (field : ArgField) : String :=
  "  " ++ padded 9 (if field.required then "required" else "optional") ++ " " ++
    padded 24 field.type.text ++ " key '" ++ field.key ++ "' " ++ storageText field ++ " -> " ++
    assignmentText field

/-- The lines for a controller. -/
def controllerLines (controller : Controller) : List String :=
  [controller.qualifiedName ++ " -> " ++ controller.qualifiedBuilderName]
    ++ (if controller.inherited then [] else ["  (superclasses not scanned)"])
    ++ controller.fields.map fieldLine
    ++ controller.codecs.entries.map (fun entry => "  bundler " ++ entry.2 ++ " = " ++ entry.1)
    ++ [""]

/-- The text for a run. -/
def generationText (generation : Generation) : String :=
  String.join ((generation.controllers.flatMap controllerLines).map (· ++ "\n"))

end BundleBuilder.Report
