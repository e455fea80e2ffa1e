import BundleBuilder.ClassDecl.Naming
import BundleBuilder.ClassTable.Supertype
import BundleBuilder.ProcessingError

/-!
# Codecs

An argument may name a codec, a class that puts its values into a bundle and takes them out. A codec
must be a class that generated code can instantiate and that implements the codec interface.
-/

set_option autoImplicit false

namespace BundleBuilder.Codec

/-- Whether a name stands for the absence of a codec. -/
def isNone (platform : Platform) (name : String) : Bool :=
  name == platform.noCodecClass ||
    (!Text.isQualified name && Text.simpleName platform.noCodecClass == name)

/-- The class that a codec name denotes: a simple name denotes a class of the given package, if that
is known. -/
def qualify (table : ClassTable) (package name : String) : String :=
  let candidate := package ++ "." ++ name
  if !Text.isQualified name && package != "" && table.contains candidate then candidate else name

/-- What is wrong with a class as a codec. -/
def defect? (table : ClassTable) (platform : Platform) (name : String) : Option String :=
  let refused := fun (demand : String) =>
    some ("The " ++ name ++ " must " ++ demand ++ " to be a valid ArgsBundler")
  match table.find? name with
  | none => some ("The bundler class " ++ name ++ " is unknown. Add it to the class model")
  | some codec =>
    if codec.isAbstract then refused "be a concrete class"
    else if codec.visibility ≠ .publicAccess then refused "be a public class"
    else if codec.isNested = true ∧ .static ∉ codec.modifiers then refused "be a static class"
    else if !codec.hasPublicNoArgConstructor then
      refused "provide a public empty default constructor"
    else if table.contains platform.codecInterface &&
        !table.isSubclass name platform.codecInterface then
      some ("The " ++ name ++ " must implement " ++ platform.codecInterface)
    else none

/-- The codec that the marker of an argument names, if it names one. -/
def ofMarker (table : ClassTable) (platform : Platform) (marker : Annotation)
    (package element : String) : Except ProcessingError (Option String) :=
  match marker.text? "bundler" with
  | none | some "" => .ok none
  | some given =>
    let name := qualify table package given
    if isNone platform name then .ok none
    else match defect? table platform name with
      | some message => .error (.invalidCodec element message)
      | none => .ok (some name)

end BundleBuilder.Codec
