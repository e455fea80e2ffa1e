import BundleBuilder.Java.Statement
import BundleBuilder.Platform
import BundleBuilder.Table.Sorted

/-!
# The dispatch class

One class that injects the arguments into any controller: it compares the name under which the
running program knows the controller's class with the names of all controllers, in alphabetical
order.
-/

set_option autoImplicit false

namespace BundleBuilder.Java

open Table

/-- The class of a controller and its builder. -/
structure Route where
  controller : String
  builder : String
  deriving DecidableEq, Repr

/-- The routes of a dispatch class by the names that the running program uses. -/
abbrev Routes := SortedTable Route

/-- The steps of the branch for a controller. -/
def routeSteps (entry : String × Route) : List Step :=
  [ .opening [] ("if (" ++ stringLiteral entry.1 ++ ".equals(targetName))"),
    .statement (entry.2.builder ++ ".injectArguments((" ++ entry.2.controller ++ ") target)"),
    .statement "return",
    .closing ]

/-- The steps that write the dispatch class. -/
def dispatchSteps (platform : Platform) (routes : Routes) : List Step :=
  [ .opening [] ("public final class " ++ platform.injectorSimpleName),
    .blank,
    .opening [] ("private " ++ platform.injectorSimpleName ++ "()"),
    .closing,
    .blank,
    .opening [] "public static void inject(Object target)",
    .statement "String targetName = target.getClass().getName()" ]
    ++ routes.entries.flatMap routeSteps ++ [.closing, .closing]

end BundleBuilder.Java
