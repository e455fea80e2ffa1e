import BundleBuilder.ClassTable.Basic
import BundleBuilder.JavaType.Names
import BundleBuilder.JavaType.Parser
import BundleBuilder.Platform

/-!
# Built-in classes

The classes of the runtime and the platform that decide how a type can be stored: the boxed
primitives, strings, collections, the bundle and its companions. Their names follow the platform.
-/

set_option autoImplicit false

namespace BundleBuilder.ClassTable

/-- The qualified name of the root of the class hierarchy. -/
def objectName : String := "java.lang.Object"

/-- The type that a text denotes inside a class with the given type parameters. A text that is no
type counts as the name of a class. -/
def builtinType (params : List String) (text : String) : JavaType :=
  match JavaType.parse text with
  | .ok type => type.normalize params
  | .error _ => .named text

/-- A public built-in class or interface. -/
def builtin (kind : ClassKind) (name : String) (params : List String) (superclass? : Option String)
    (interfaces : List String) (modifiers : List Modifier) : ClassDecl where
  name := name
  kind := kind
  modifiers := .publicAccess :: modifiers
  typeParameters := params.map fun param => { name := param }
  superclass? := superclass?.map (builtinType params)
  interfaces := interfaces.map (builtinType params)

/-- A built-in interface. -/
def builtinInterface (name : String) (params interfaces : List String) : ClassDecl :=
  builtin .interfaceKind name params none interfaces []

/-- A built-in class directly below the root. -/
def builtinClass (name : String) (params interfaces : List String) (modifiers : List Modifier) :
    ClassDecl :=
  builtin .classKind name params none interfaces modifiers

/-- The boxed numbers. -/
def boxedNumbers : List ClassDecl :=
  ["Integer", "Long", "Short", "Byte", "Float", "Double"].map fun simple =>
    builtin .classKind ("java.lang." ++ simple) [] (some "java.lang.Number")
      ["java.lang.Comparable<java.lang." ++ simple ++ ">"] [.final]

/-- The other boxed primitives. -/
def boxedOthers (platform : Platform) : List ClassDecl :=
  ["Boolean", "Character"].map fun simple =>
    builtinClass ("java.lang." ++ simple) []
      [platform.serializableClass, "java.lang.Comparable<java.lang." ++ simple ++ ">"] [.final]

/-- The classes of the language itself. -/
def languageClasses (platform : Platform) : List ClassDecl :=
  [ builtinClass objectName [] [] [],
    builtinInterface platform.serializableClass [] [],
    builtinInterface "java.lang.Cloneable" [] [],
    builtinInterface "java.lang.CharSequence" [] [],
    builtinInterface "java.lang.Comparable" ["T"] [],
    builtinInterface "java.lang.Iterable" ["T"] [],
    builtinClass "java.lang.String" []
      [platform.serializableClass, "java.lang.Comparable<java.lang.String>",
        "java.lang.CharSequence"]
      [.final],
    builtinClass "java.lang.Number" [] [platform.serializableClass] [.abstract] ]

/-- The collection classes. -/
def collectionClasses (platform : Platform) : List ClassDecl :=
  [ builtinInterface "java.util.Collection" ["E"] ["java.lang.Iterable<E>"],
    builtinInterface "java.util.List" ["E"] ["java.util.Collection<E>"],
    builtinInterface "java.util.RandomAccess" [] [],
    builtinClass "java.util.AbstractCollection" ["E"] ["java.util.Collection<E>"] [.abstract],
    builtin .classKind "java.util.AbstractList" ["E"] (some "java.util.AbstractCollection<E>")
      ["java.util.List<E>"] [.abstract],
    builtin .classKind platform.arrayListClass ["E"] (some "java.util.AbstractList<E>")
      ["java.util.List<E>", "java.util.RandomAccess", "java.lang.Cloneable",
        platform.serializableClass]
      [],
    builtinInterface "java.util.Map" ["K", "V"] [],
    builtinClass "java.util.HashMap" ["K", "V"]
      ["java.util.Map<K, V>", "java.lang.Cloneable", platform.serializableClass] [] ]

/-- The classes of the platform that store values. -/
def storageClasses (platform : Platform) : List ClassDecl :=
  [ builtinInterface platform.parcelableClass [] [],
    builtinClass "android.os.BaseBundle" [] [] [],
    builtin .classKind platform.bundleClass [] (some "android.os.BaseBundle")
      ["java.lang.Cloneable", platform.parcelableClass] [.final],
    builtinClass platform.sparseArrayClass ["E"] ["java.lang.Cloneable"] [],
    builtinInterface platform.codecInterface ["T"] [],
    builtinClass platform.noCodecClass [] [platform.codecInterface ++ "<java.lang.Object>"] [] ]

/-- The markers of the two support annotation packages. -/
def supportAnnotations : List ClassDecl :=
  ["android.support.annotation", "androidx.annotation"].flatMap fun package =>
    ["NonNull", "Nullable"].map fun simple => builtinInterface (package ++ "." ++ simple) [] []

/-- All built-in classes of a platform, in the order in which they become known. -/
def builtinClasses (platform : Platform) : List ClassDecl :=
  languageClasses platform ++ boxedNumbers ++ boxedOthers platform ++ collectionClasses platform ++
    storageClasses platform ++ (platform.controllerBases.map fun base => builtinClass base [] [] [])
    ++ supportAnnotations

/-- The class table of a platform before any model is loaded. -/
def ofPlatform (platform : Platform) : ClassTable := empty.insertAll (builtinClasses platform)

end BundleBuilder.ClassTable
