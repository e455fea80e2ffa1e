import BundleBuilder.ClassTable.Assignability

/-!
# How a value is stored in a bundle

A bundle has a pair of methods for each kind of value that it can hold. The static type of an
argument decides which pair is used: exact types first, then arrays of such types, then the first
structural type in a fixed order that the type can be assigned to.
-/

set_option autoImplicit false

namespace BundleBuilder

/-- The kinds of single values that a bundle can hold. -/
inductive ElementKind where
  | string
  | int
  | long
  | double
  | short
  | float
  | byte
  | boolean
  | char
  | charSequence
  | bundle
  | parcelable
  deriving DecidableEq, Repr

namespace ElementKind

/-- The word for a kind in the names of the bundle's methods. -/
def word : ElementKind → String
  | string => "String"
  | int => "Int"
  | long => "Long"
  | double => "Double"
  | short => "Short"
  | float => "Float"
  | byte => "Byte"
  | boolean => "Boolean"
  | char => "Char"
  | charSequence => "CharSequence"
  | bundle => "Bundle"
  | parcelable => "Parcelable"

/-- The kind of the values of a primitive type. -/
def ofPrimitive : Primitive → ElementKind
  | .boolean => boolean
  | .byte => byte
  | .short => short
  | .int => int
  | .long => long
  | .char => char
  | .float => float
  | .double => double

/-- The kinds of the classes of the language that a bundle can hold. -/
def languageKinds : List (String × ElementKind) :=
  [("java.lang.String", string), ("java.lang.Integer", int), ("java.lang.Long", long),
    ("java.lang.Double", double), ("java.lang.Short", short), ("java.lang.Float", float),
    ("java.lang.Byte", byte), ("java.lang.Boolean", boolean), ("java.lang.Character", char),
    ("java.lang.CharSequence", charSequence)]

/-- The kind of the instances of a class. -/
def ofClass? (platform : Platform) (name : String) : Option ElementKind :=
  match languageKinds.lookup name with
  | some kind => some kind
  | none =>
    if name = platform.bundleClass then some bundle
    else if name = platform.parcelableClass then some parcelable
    else none

/-- The kind of the values of a type that is named exactly. -/
def ofType? (platform : Platform) : JavaType → Option ElementKind
  | .primitive kind => some (ofPrimitive kind)
  | .declared name [] => ofClass? platform name
  | _ => none

/-- The kind of the elements of an array that a bundle can hold. There is no method for arrays of
boxed primitives or of bundles. -/
def ofArrayElement? (platform : Platform) (element : JavaType) : Option ElementKind :=
  match ofType? platform element with
  | none => none
  | some kind =>
    -- Besides primitives there are methods only for arrays of three kinds of references.
    if element.isPrimitive || [string, charSequence, parcelable].contains kind then some kind
    else none

end ElementKind

/-- The ways to store a value in a bundle. -/
inductive Storage where
  | single (kind : ElementKind)
  | array (kind : ElementKind)
  | stringList
  | integerList
  | charSequenceList
  | parcelableList
  | sparseParcelables
  | serializable
  deriving DecidableEq, Repr

namespace Storage

/-- The end of the names of the bundle's two methods. -/
def operation : Storage → String
  | single kind => kind.word
  | array kind => kind.word ++ "Array"
  | stringList => "StringArrayList"
  | integerList => "IntegerArrayList"
  | charSequenceList => "CharSequenceArrayList"
  | parcelableList => "ParcelableArrayList"
  | sparseParcelables => "SparseParcelableArray"
  | serializable => "Serializable"

/-- Whether the value that comes out of the bundle must be cast to its type. -/
def needsCast (storage : Storage) : Bool := storage == serializable

/-- The type of lists with a given element type. -/
def listOf (platform : Platform) (element : JavaType) : JavaType :=
  .declared platform.arrayListClass [element]

/-- The structural types in the order in which they are tried. -/
def structuralTypes (platform : Platform) : List (JavaType × Storage) :=
  let parcelable := JavaType.named platform.parcelableClass
  [ (listOf platform (.named "java.lang.String"), stringList),
    (listOf platform (.named "java.lang.Integer"), integerList),
    (listOf platform (.named "java.lang.CharSequence"), charSequenceList),
    (listOf platform (.wildcardExtends parcelable), parcelableList),
    (.declared platform.sparseArrayClass [.wildcardExtends parcelable], sparseParcelables),
    (parcelable, single .parcelable),
    (.named platform.serializableClass, serializable) ]

/-- The storage of an array by its element type. -/
def ofArray? (platform : Platform) : JavaType → Option Storage
  | .array element => (ElementKind.ofArrayElement? platform element).map array
  | _ => none

/-- The storage of a type by the first structural type that it can be assigned to. -/
def structural? (table : ClassTable) (platform : Platform) (bounds : TypeBounds)
    (type : JavaType) : Option Storage :=
  ((structuralTypes platform).find? fun entry => table.isAssignable bounds type entry.1).map (·.2)

/-- The storage of a type, or nothing if a bundle cannot hold its values. -/
def ofType? (table : ClassTable) (platform : Platform) (bounds : TypeBounds) (type : JavaType) :
    Option Storage :=
  match ElementKind.ofType? platform type with
  | some kind => some (single kind)
  | none =>
    match ofArray? platform type with
    | some storage => some storage
    | none => structural? table platform bounds type

end Storage

end BundleBuilder
