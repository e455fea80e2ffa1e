import BundleBuilder.Files.Tree
import BundleBuilder.Java.Builder
import BundleBuilder.Java.Dispatch

/-!
# Generated units

A generated unit is one source file: its class, its package and its text. It is written to a file
named for the class, in a directory for each segment of the package.
-/

set_option autoImplicit false

namespace BundleBuilder.Java

/-- A generated source file. -/
structure SourceUnit where
  qualifiedName : String
  package : String
  simpleName : String
  source : String
  deriving DecidableEq, Repr

/-- The path of the file of a unit below the output directory. -/
def SourceUnit.relativePath (unit : SourceUnit) : String :=
  let directories := (Text.segments unit.package).filter (· ≠ "")
  (directories ++ [unit.simpleName ++ ".java"]).foldl Files.appendPath ""

/-- The comment at the top of every unit. -/
def header : Step := .comment "Generated by fragargs-gen. Do not modify!"

/-- The steps that write the unit of a builder. -/
def builderSteps (scope : BuilderScope) : List Step :=
  header :: .package scope.controller.package :: .imports scope.names.imports ::
    scope.classSteps

/-- The unit of a builder. -/
def builderUnit (scope : BuilderScope) : SourceUnit where
  qualifiedName := scope.controller.qualifiedBuilderName
  package := scope.controller.package
  simpleName := scope.controller.builderName
  source := layout (builderSteps scope)

/-- The route to a controller's builder. -/
def routeOf (controller : Controller) : Route :=
  ⟨controller.qualifiedName, controller.qualifiedBuilderName⟩

/-- The unit of the dispatch class. -/
def dispatchUnit (platform : Platform) (routes : Routes) : SourceUnit where
  qualifiedName := platform.injectorClass
  package := platform.injectorPackage
  simpleName := platform.injectorSimpleName
  source := layout (header :: .package platform.injectorPackage :: dispatchSteps platform routes)

end BundleBuilder.Java
