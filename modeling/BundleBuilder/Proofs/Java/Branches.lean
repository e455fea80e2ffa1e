import BundleBuilder.Java.Unit

/-!
# Branches of the dispatch class

The source text of the dispatch class has the same few lines for every route: they compare the name of
the target with that of the controller and call its builder (`source_dispatchUnit`).
-/

set_option autoImplicit false

namespace BundleBuilder.Java

/-- The number of open blocks after a list of steps. -/
def depthAfterAll (depth : Nat) (steps : List Step) : Nat := steps.foldl Step.depthAfter depth

theorem depthAfterAll_append (depth : Nat) (first second : List Step) :
    depthAfterAll depth (first ++ second) = depthAfterAll (depthAfterAll depth first) second :=
  List.foldl_append

theorem linesFrom_append (first second : List Step) : ∀ depth : Nat,
    linesFrom depth (first ++ second)
      = linesFrom depth first ++ linesFrom (depthAfterAll depth first) second := by
  induction first with
  | nil =>
    intro depth
    rfl
  | cons step first ih =>
    intro depth
    rw [List.cons_append, linesFrom, linesFrom, ih, List.append_assoc]
    rfl

/-- The text of lines. -/
def textOf (lines : List String) : String := String.join (lines.map fun line => line ++ "\n")

/-- The lines of the branch for a controller: they compare the name of the target, call the builder and
return. -/
def branchLines (entry : String × Route) : List String :=
  [ indented 2 ("if (" ++ stringLiteral entry.1 ++ ".equals(targetName)) \x7b"),
    indented 3 (entry.2.builder ++ ".injectArguments((" ++ entry.2.controller ++ ") target);"),
    indented 3 "return;",
    indented 2 "\x7d" ]

theorem linesFrom_routeSteps (entry : String × Route) :
    linesFrom 2 (routeSteps entry) = branchLines entry := by
  -- The layout ends lines by itself, so the texts of the steps are shorter than the lines.
  have hopening : ∀ front : String,
      front ++ ".equals(targetName))" ++ " \x7b" = front ++ ".equals(targetName)) \x7b" :=
    fun _ => String.append_assoc
  have hcall : ∀ front : String, front ++ ") target)" ++ ";" = front ++ ") target);" :=
    fun _ => String.append_assoc
  have hlines : linesFrom 2 (routeSteps entry)
      = [ indented 2 ("if (" ++ stringLiteral entry.1 ++ ".equals(targetName))" ++ " \x7b"),
          indented 3 (entry.2.builder ++ ".injectArguments((" ++ entry.2.controller ++ ") target)"
            ++ ";"),
          indented 3 "return;", indented 2 "\x7d" ] := rfl
  rw [hlines, branchLines, hopening, hcall]

/-- The branches leave two blocks open, as they find them. -/
theorem depthAfterAll_branches (entries : List (String × Route)) :
    depthAfterAll 2 (entries.flatMap routeSteps) = 2 := by
  induction entries with
  | nil => rfl
  | cons entry entries ih =>
    rw [List.flatMap_cons, depthAfterAll_append]
    exact ih

theorem linesFrom_branches (entries : List (String × Route)) :
    linesFrom 2 (entries.flatMap routeSteps) = entries.flatMap branchLines := by
  induction entries with
  | nil => rfl
  | cons entry entries ih =>
    rw [List.flatMap_cons, List.flatMap_cons, linesFrom_append, linesFrom_routeSteps]
    exact congrArg (branchLines entry ++ ·) ih

/-- The steps of the dispatch class in front of its branches. -/
def dispatchHead (platform : Platform) : List Step :=
  [ header,
    .package platform.injectorPackage,
    .opening [] ("public final class " ++ platform.injectorSimpleName),
    .blank,
    .opening [] ("private " ++ platform.injectorSimpleName ++ "()"),
    .closing,
    .blank,
    .opening [] "public static void inject(Object target)",
    .statement "String targetName = target.getClass().getName()" ]

/-- Between the head of the dispatch class and its closing braces stand the branches of its routes. -/
theorem source_dispatchUnit (platform : Platform) (routes : Routes) :
    (dispatchUnit platform routes).source
      = textOf (linesFrom 0 (dispatchHead platform) ++ routes.entries.flatMap branchLines
          ++ linesFrom 2 [.closing, .closing]) := by
  have hsteps : header :: .package platform.injectorPackage :: dispatchSteps platform routes
      = dispatchHead platform ++ (routes.entries.flatMap routeSteps ++ [.closing, .closing]) :=
    (List.append_assoc (dispatchHead platform) _ _)
  have hdepth : depthAfterAll 0 (dispatchHead platform) = 2 := rfl
  rw [dispatchUnit, layout, hsteps, linesFrom_append, hdepth, linesFrom_append, linesFrom_branches,
    depthAfterAll_branches, textOf, List.append_assoc]

end BundleBuilder.Java
