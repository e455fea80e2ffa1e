import BundleBuilder.Java.Unit
import BundleBuilder.Proofs.ClassTable.Agreement
import BundleBuilder.Proofs.Java.Rendering

/-!
# Units from tables that agree

A unit asks the class table one question only: whether a class lives in the package of the unit. So a
table may be replaced by one that agrees with it, and the text of the unit stays the same
(`builderUnit_eq`).
-/

set_option autoImplicit false

namespace BundleBuilder.Java

open ClassTable

/-- A scope of names with another class table. -/
def NameScope.withTable (names : NameScope) (table : ClassTable) : NameScope := { names with table }

/-- The scope of a builder with another class table. -/
def BuilderScope.withTable (scope : BuilderScope) (table : ClassTable) : BuilderScope :=
  { scope with names := scope.names.withTable table }

/-! ## Names -/

section Names

variable {names : NameScope} {table : ClassTable} (h : Agree names.table table)

include h

theorem isOwn_withTable (qualified : String) :
    (names.withTable table).isOwn qualified = names.isOwn qualified := by
  simp only [NameScope.isOwn, NameScope.withTable, h qualified]

theorem name_withTable : (names.withTable table).name = names.name := by
  funext qualified
  simp only [NameScope.name, NameScope.relativeName?, isOwn_withTable h]
  rfl

theorem render_withTable : (names.withTable table).render = names.render := by
  funext type
  rw [render_eq_text, render_eq_text, name_withTable h]

end Names

/-! ## Builders -/

section Builders

variable {scope : BuilderScope} {table : ClassTable} (h : Agree scope.names.table table)

include h

theorem controllerName_withTable : (scope.withTable table).controllerName = scope.controllerName :=
  congrFun (name_withTable h) _

theorem bundleName_withTable : (scope.withTable table).bundleName = scope.bundleName :=
  congrFun (name_withTable h) _

theorem parameter_withTable : (scope.withTable table).parameter = scope.parameter := by
  funext field
  simp only [BuilderScope.parameter, BuilderScope.withTable, render_withTable h]

theorem parameters_withTable (fields : List ArgField) :
    (scope.withTable table).parameters fields = scope.parameters fields := by
  rw [BuilderScope.parameters, BuilderScope.parameters, parameter_withTable h]

theorem injectionStepsOfAll_withTable (fields : List ArgField) : ∀ count : Nat,
    injectionStepsOfAll (scope.withTable table) count fields
      = injectionStepsOfAll scope count fields := by
  have hreading : readingOf? (scope.names.withTable table) = readingOf? scope.names := by
    funext field
    simp only [readingOf?, render_withTable h]
  have hassigned : assignmentSteps (scope.names.withTable table) = assignmentSteps scope.names := by
    funext field count
    simp only [assignmentSteps, hreading, render_withTable h]
  have hsteps : injectionSteps (scope.withTable table) = injectionSteps scope := by
    funext field count
    simp only [injectionSteps, BuilderScope.withTable, hassigned]
  induction fields with
  | nil => exact fun _ => rfl
  | cons field fields ih =>
    intro count
    simp only [injectionStepsOfAll, hsteps, ih]

omit h in
theorem methodTypeParameters_withTable :
    (scope.withTable table).methodTypeParameters = scope.methodTypeParameters := rfl

theorem constructorSteps_withTable :
    (scope.withTable table).constructorSteps = scope.constructorSteps := by
  have hheader : (scope.withTable table).constructorHeader = scope.constructorHeader := by
    unfold BuilderScope.constructorHeader
    rw [parameters_withTable h]
    rfl
  rw [BuilderScope.constructorSteps, hheader]
  rfl

theorem factorySteps_withTable : (scope.withTable table).factorySteps = scope.factorySteps := by
  have hheader : (scope.withTable table).factoryHeader = scope.factoryHeader := by
    unfold BuilderScope.factoryHeader
    rw [parameters_withTable h, controllerName_withTable h, methodTypeParameters_withTable]
    rfl
  rw [BuilderScope.factorySteps, hheader]
  rfl

theorem fluentSteps_withTable : (scope.withTable table).fluentSteps = scope.fluentSteps := by
  funext field
  have hheader : (scope.withTable table).fluentHeader field = scope.fluentHeader field := by
    unfold BuilderScope.fluentHeader
    rw [parameter_withTable h]
    rfl
  rw [BuilderScope.fluentSteps, hheader]
  rfl

theorem bundleSteps_withTable : (scope.withTable table).bundleSteps = scope.bundleSteps := by
  have hheader : (scope.withTable table).bundleHeader = scope.bundleHeader := by
    unfold BuilderScope.bundleHeader
    rw [bundleName_withTable h]
  have hreturn : (scope.withTable table).returnBundle = scope.returnBundle := by
    unfold BuilderScope.returnBundle
    rw [bundleName_withTable h]
  rw [BuilderScope.bundleSteps, hheader, hreturn]
  rfl

theorem injectSteps_withTable : (scope.withTable table).injectSteps = scope.injectSteps := by
  have hheader : (scope.withTable table).injectHeader = scope.injectHeader := by
    unfold BuilderScope.injectHeader
    rw [controllerName_withTable h, methodTypeParameters_withTable]
  have htake : (scope.withTable table).takeBundle = scope.takeBundle := by
    unfold BuilderScope.takeBundle
    rw [bundleName_withTable h]
  rw [BuilderScope.injectSteps, hheader, htake, injectionStepsOfAll_withTable h]
  rfl

theorem buildSteps_withTable : (scope.withTable table).buildSteps = scope.buildSteps := by
  have hheader : (scope.withTable table).buildHeader = scope.buildHeader := by
    unfold BuilderScope.buildHeader
    rw [controllerName_withTable h]
  have hmake : (scope.withTable table).makeController = scope.makeController := by
    unfold BuilderScope.makeController
    rw [controllerName_withTable h]
  have hgiven : (scope.withTable table).buildGivenHeader = scope.buildGivenHeader := by
    unfold BuilderScope.buildGivenHeader
    rw [controllerName_withTable h]
    rfl
  rw [BuilderScope.buildSteps, hheader, hmake, hgiven]
  rfl

theorem classSteps_withTable : (scope.withTable table).classSteps = scope.classSteps := by
  have hfields : (scope.withTable table).fieldSteps = scope.fieldSteps := by
    simp only [BuilderScope.fieldSteps, bundleName_withTable h]
    simp only [BuilderScope.withTable, name_withTable h]
  rw [BuilderScope.classSteps, hfields, constructorSteps_withTable h, factorySteps_withTable h,
    fluentSteps_withTable h, bundleSteps_withTable h, injectSteps_withTable h, buildSteps_withTable h]
  rfl

/-- The unit of a builder is the same with a table that agrees. -/
theorem builderUnit_withTable : builderUnit (scope.withTable table) = builderUnit scope := by
  simp only [builderUnit, builderSteps, classSteps_withTable h]
  rfl

end Builders

/-! ## Scopes -/

theorem table_baseNames (controller : Controller) (platform : Platform) (table : ClassTable) :
    (BuilderScope.baseNames controller platform table).table = table := by
  rw [BuilderScope.baseNames]
  split <;> rfl

theorem baseNames_withTable (controller : Controller) (platform : Platform)
    (first second : ClassTable) :
    BuilderScope.baseNames controller platform second
      = (BuilderScope.baseNames controller platform first).withTable second := by
  rw [BuilderScope.baseNames, BuilderScope.baseNames]
  split <;> rfl

section Scopes

variable {first second : ClassTable} (h : Agree first second) (controller : Controller)
  (platform : Platform) (supportPackage? : Option String) (annotations : List String)

theorem table_ofController : (BuilderScope.ofController controller platform first supportPackage?
    annotations).names.table = first := by
  cases supportPackage? <;> exact table_baseNames controller platform first

include h

theorem ofController_withTable :
    BuilderScope.ofController controller platform second supportPackage? annotations
      = (BuilderScope.ofController controller platform first supportPackage? annotations).withTable
          second := by
  cases supportPackage? with
  | none =>
    simp only [BuilderScope.ofController, baseNames_withTable controller platform first second]
    rfl
  | some package =>
    have hagree : Agree (((BuilderScope.baseNames controller platform first).addImport
        (package ++ ".NonNull")).addImport (package ++ ".Nullable")).table second := by
      show Agree (BuilderScope.baseNames controller platform first).table second
      rw [table_baseNames]
      exact h
    have hnames := name_withTable hagree
    simp only [BuilderScope.ofController, baseNames_withTable controller platform first second]
    simp only [BuilderScope.withTable, ← hnames]
    rfl

/-- The unit of a controller's builder is the same for tables that agree. -/
theorem builderUnit_eq :
    builderUnit (BuilderScope.ofController controller platform first supportPackage? annotations)
      = builderUnit
          (BuilderScope.ofController controller platform second supportPackage? annotations) := by
  rw [ofController_withTable h, builderUnit_withTable]
  rw [table_ofController]
  exact h

end Scopes

end BundleBuilder.Java
