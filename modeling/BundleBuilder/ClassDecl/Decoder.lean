import BundleBuilder.ClassDecl.Basic
import BundleBuilder.Yaml.Decoder

/-!
# Reading class declarations

The records of a class model. Only the name of a declaration and the type of a field or parameter
must be given; everything else has a default.
-/

set_option autoImplicit false

namespace BundleBuilder

open Table Yaml Yaml.Decoder

namespace AnnotationValue

/-- A whole number as an annotation value, which has 64 bits. -/
def ofWholeNumber (value : Int) : Except Mismatch AnnotationValue :=
  if -(Nat.pow 2 63 : Int) ≤ value ∧ value < (Nat.pow 2 63 : Int) then .ok (.int value)
  else .error (.expected .annotationValue)

/-- The value of a plain scalar: a truth value, a whole number or a text. Nothing and decimal
fractions are no annotation values. -/
def ofPlain (content : String) : Except Mismatch AnnotationValue :=
  if content = "" ∨ isNullWord content = true then .error (.expected .annotationValue)
  else match truthValue? content with
    | some value => .ok (.bool value)
    | none =>
      match wholeNumber? content with
      | some value => ofWholeNumber value
      | none =>
        if !hasLeadingZero content && isFraction content then .error (.expected .annotationValue)
        else .ok (.text content)

/-- The value of a scalar with a tag. -/
def ofTagged (tag content : String) : Except Mismatch AnnotationValue :=
  if tag = standardTag "bool" then
    match truthValue? content with
    | some value => .ok (.bool value)
    | none => .error (.expected .annotationValue)
  else if tag = standardTag "int" then
    match wholeNumber? content with
    | some value => ofWholeNumber value
    | none => .error (.expected .annotationValue)
  else if tag = standardTag "float" ∨ tag = standardTag "null" ∨ (localName? (some tag)).isSome then
    .error (.expected .annotationValue)
  else .ok (.text content)

/-- The value of a scalar. -/
def ofScalar (content : String) (style : Style) : Option String → Except Mismatch AnnotationValue
  | some tag => ofTagged tag content
  | none => if style = .plain then ofPlain content else .ok (.text content)

mutual

/-- Reads an annotation value. -/
def ofNode : Node → Except Mismatch AnnotationValue
  | .scalar content style tag? => ofScalar content style tag?
  | .sequence tag? items =>
    if (localName? tag?).isSome then .error (.expected .annotationValue)
    else match ofNodes items with
      | .error mismatch => .error mismatch
      | .ok values => .ok (.list values)
  | _ => .error (.expected .annotationValue)

/-- Reads a list of annotation values. -/
def ofNodes : List Node → Except Mismatch (List AnnotationValue)
  | [] => .ok []
  | node :: nodes =>
    match ofNode node, ofNodes nodes with
    | .error mismatch, _ => .error mismatch
    | _, .error mismatch => .error mismatch
    | .ok value, .ok values => .ok (value :: values)

end

end AnnotationValue

namespace Annotation

/-- Reads the entries of a table of annotation values; of a repeated key the last value counts. -/
def decodeEntries (values : SortedTable AnnotationValue) :
    List (Node × Node) → Except Mismatch (SortedTable AnnotationValue)
  | [] => .ok values
  | (key, value) :: entries =>
    match Decoder.text key, AnnotationValue.ofNode value with
    | .error mismatch, _ => .error mismatch
    | _, .error mismatch => .error mismatch
    | .ok key, .ok value => decodeEntries (values.insert key value) entries

/-- Reads a table of annotation values. -/
def decodeValues : Decoder (SortedTable AnnotationValue)
  | .mapping _ entries => decodeEntries .empty entries
  | .scalar "" .plain _ => .ok .empty
  | _ => .error (.expected .record)

/-- Reads an annotation. -/
def decode : Decoder Annotation := fun node => do
  let fields ← record ["name", "values"] node
  return { name := ← fields.required "name" text
           values := ← fields.optional "values" .empty decodeValues }

end Annotation

/-- Reads a list of modifiers. -/
def Modifier.decodeList : Decoder (List Modifier) := list (Decoder.word Modifier.ofWord?)

/-- Reads a type parameter. -/
def TypeParameter.decode : Decoder TypeParameter := fun node => do
  let fields ← record ["name", "bounds"] node
  return { name := ← fields.required "name" text
           bounds := ← fields.optional "bounds" [] (list javaType) }

/-- Reads a parameter of a method or constructor. -/
def Parameter.decode : Decoder Parameter := fun node => do
  let fields ← record ["name", "type"] node
  return { name := ← fields.optional "name" "" text
           type := ← fields.required "type" javaType }

/-- Reads a field. -/
def FieldDecl.decode : Decoder FieldDecl := fun node => do
  let fields ← record ["name", "type", "modifiers", "annotations"] node
  return { name := ← fields.required "name" text
           type := ← fields.required "type" javaType
           modifiers := ← fields.optional "modifiers" [] Modifier.decodeList
           annotations := ← fields.optional "annotations" [] (list Annotation.decode) }

/-- Reads a method. -/
def MethodDecl.decode : Decoder MethodDecl := fun node => do
  let fields ← record ["name", "modifiers", "parameters", "return-type"] node
  return { name := ← fields.required "name" text
           modifiers := ← fields.optional "modifiers" [] Modifier.decodeList
           parameters := ← fields.optional "parameters" [] (list Parameter.decode)
           returnType := ← fields.optional "return-type" .void javaType }

/-- Reads a constructor. -/
def ConstructorDecl.decode : Decoder ConstructorDecl := fun node => do
  let fields ← record ["modifiers", "parameters"] node
  return { modifiers := ← fields.optional "modifiers" [] Modifier.decodeList
           parameters := ← fields.optional "parameters" [] (list Parameter.decode) }

/-- The word for a kind of declaration. -/
def ClassKind.word : ClassKind → String
  | classKind => "class"
  | interfaceKind => "interface"

/-- The kind of declaration that a word stands for. -/
def ClassKind.ofWord? (text : String) : Option ClassKind :=
  [classKind, interfaceKind].find? fun kind => kind.word == text

/-- The keys of a class declaration. -/
def ClassDecl.keys : List String :=
  ["name", "package", "kind", "modifiers", "type-parameters", "superclass", "interfaces",
    "annotations", "constructors", "fields", "methods"]

/-- Reads a class or interface. -/
def ClassDecl.decode : Decoder ClassDecl := fun node => do
  let fields ← record ClassDecl.keys node
  return { name := ← fields.required "name" text
           package? := ← fields.optional "package" none (nullable text)
           kind := ← fields.optional "kind" .classKind (Decoder.word ClassKind.ofWord?)
           modifiers := ← fields.optional "modifiers" [] Modifier.decodeList
           typeParameters := ← fields.optional "type-parameters" [] (list TypeParameter.decode)
           superclass? := ← fields.optional "superclass" none (nullable javaType)
           interfaces := ← fields.optional "interfaces" [] (list javaType)
           annotations := ← fields.optional "annotations" [] (list Annotation.decode)
           constructors := ← fields.optional "constructors" [] (list ConstructorDecl.decode)
           fields := ← fields.optional "fields" [] (list FieldDecl.decode)
           methods := ← fields.optional "methods" [] (list MethodDecl.decode) }

end BundleBuilder
