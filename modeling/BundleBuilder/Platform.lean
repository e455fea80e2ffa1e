import BundleBuilder.Text.Dotted

/-!
# The platform

The names of the platform classes and markers that generated code talks about. The defaults are
those of Android with the fragment argument annotations; a configuration may replace any of them.
-/

set_option autoImplicit false

namespace BundleBuilder

/-- The names by which the generator knows the platform. -/
structure Platform where
  /-- Marks a field as an argument. -/
  argMarker : String := "com.hannesdorfmann.fragmentargs.annotation.Arg"
  /-- Marks a controller class and says whether its superclasses are scanned. -/
  controllerMarker : String := "com.hannesdorfmann.fragmentargs.annotation.FragmentWithArgs"
  /-- The deprecated marker that says whether superclasses are scanned. -/
  inheritedMarker : String := "com.hannesdorfmann.fragmentargs.annotation.FragmentArgsInherited"
  /-- The base classes of controllers, which are never scanned. -/
  controllerBases : List String :=
    ["android.app.Fragment", "android.support.v4.app.Fragment", "androidx.fragment.app.Fragment"]
  bundleClass : String := "android.os.Bundle"
  parcelableClass : String := "android.os.Parcelable"
  serializableClass : String := "java.io.Serializable"
  arrayListClass : String := "java.util.ArrayList"
  sparseArrayClass : String := "android.util.SparseArray"
  codecInterface : String := "com.hannesdorfmann.fragmentargs.bundler.ArgsBundler"
  /-- The codec class that stands for no codec. -/
  noCodecClass : String := "com.hannesdorfmann.fragmentargs.bundler.NoneArgsBundler"
  /-- The qualified name of the generated dispatch class. -/
  injectorClass : String := "com.hannesdorfmann.fragmentargs.AutoFragmentArgInjector"
  /-- The beginning of the key of the mark written next to every value of a codec. -/
  sentinelPrefix : String :=
    "com.hannesdorfmann.fragmentargs.custom.bundler.2b5b8d06-8d4b-4b7d-9be9-6f1e1c1b5f2a#"
  /-- The beginnings of the names of platform classes. -/
  platformPackages : List String := ["android.", "androidx.", "java.", "javax."]
  deriving DecidableEq

namespace Platform

/-- Whether a class is one of the base classes of controllers. -/
def isControllerBase (platform : Platform) (name : String) : Bool :=
  platform.controllerBases.contains name

/-- Whether a name begins like the name of a platform class. -/
def ownsName (platform : Platform) (name : String) : Bool :=
  platform.platformPackages.any fun start => Text.hasPrefix start name

/-- The package of the dispatch class. -/
def injectorPackage (platform : Platform) : String :=
  (Text.qualifier? platform.injectorClass).getD ""

/-- The simple name of the dispatch class. -/
def injectorSimpleName (platform : Platform) : String := Text.simpleName platform.injectorClass

/-- The key of the mark that says that a codec has stored a value under `key`. -/
def sentinelKey (platform : Platform) (key : String) : String := platform.sentinelPrefix ++ key

end Platform

end BundleBuilder
