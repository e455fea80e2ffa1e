import BundleBuilder.Controller.Collect
import BundleBuilder.Java.Unit
import BundleBuilder.Options

/-!
# Generating code

A run goes through the classes of a table. Fields that are marked as arguments outside of
controllers are reported first; then every candidate is processed in the order of the names. A
controller that is processed without an error gets a builder and a route in the dispatch class.
-/

set_option autoImplicit false

namespace BundleBuilder

open Table Java

/-- What a run produces. -/
structure Generation where
  units : List SourceUnit := []
  controllers : List Controller := []
  routes : Routes := .empty
  diagnostics : Diagnostics

namespace Generation

/-- The unit of a qualified name. -/
def unit? (generation : Generation) (name : String) : Option SourceUnit :=
  generation.units.find? fun unit => unit.qualifiedName == name

/-! ## Candidates -/

/-- Whether a class lies below one of the base classes of controllers. -/
def isController (table : ClassTable) (platform : Platform) (name : String) : Bool :=
  platform.controllerBases.any fun base => table.isSubclass name base

/-- The fields of a class that are marked as arguments. -/
def argFields (platform : Platform) (decl : ClassDecl) : List FieldDecl :=
  decl.fields.filter fun field => (field.marker? platform.argMarker).isSome

/-- Whether a class has one of the markers of controllers. -/
def isMarked (platform : Platform) (decl : ClassDecl) : Bool :=
  (decl.marker? platform.controllerMarker).isSome ||
    (decl.marker? platform.inheritedMarker).isSome

/-- Whether a class is processed: a marked one, or a controller that declares arguments. -/
def isCandidate (table : ClassTable) (platform : Platform) (decl : ClassDecl) : Bool :=
  isMarked platform decl ||
    (!(argFields platform decl).isEmpty && isController table platform decl.name)

/-- The candidates in the order of their names. -/
def candidates (table : ClassTable) (platform : Platform) : List ClassDecl :=
  (table.classes.filter (isCandidate table platform)).mergeSort fun a b => decide (a.name ≤ b.name)

/-! ## Preliminary diagnostics -/

/-- The class by which support annotations are found to be available. -/
def supportProbe (options : Options) : String := options.supportPackage ++ ".NonNull"

/-- The warning about support annotations that are asked for but not available. -/
def missingSupport (options : Options) : String :=
  supportProbe options ++ " is not available, builders are generated without support " ++
    "annotations. Add the support annotations library or set " ++
    Options.supportAnnotationsKey ++ "=false"

/-- Whether support annotations are asked for and available, and a warning if they are missing. -/
def checkSupport (table : ClassTable) (options : Options) (diagnostics : Diagnostics) :
    Bool × Diagnostics :=
  if !options.supportAnnotations then (false, diagnostics)
  else if table.contains (supportProbe options) then (true, diagnostics)
  else (false, diagnostics.warning (missingSupport options) none)

/-- The errors of arguments that are declared outside of controllers. -/
def strayArguments (table : ClassTable) (platform : Platform) : List ProcessingError :=
  (table.classes.filter fun decl => !isController table platform decl.name).flatMap fun decl =>
    (argFields platform decl).map fun field =>
      .structural (FieldSite.element ⟨field.name, decl.name⟩)
        ("@Arg can only be used on fields in subclasses of Fragment. " ++ decl.simpleName ++
          " is not a Fragment")

/-- The concrete candidates without a marker. -/
def unmarkedCandidates (table : ClassTable) (platform : Platform) : List ClassDecl :=
  table.classes.filter fun decl =>
    isCandidate table platform decl && !isMarked platform decl && !decl.isAbstract

/-- The warning about a candidate without a marker. -/
def missingMarker (decl : ClassDecl) : String :=
  decl.simpleName ++ " declares @Arg fields but is not annotated with @FragmentWithArgs"

/-- Warns about a candidate without a marker. -/
def warnUnmarked (diagnostics : Diagnostics) (decl : ClassDecl) : Diagnostics :=
  diagnostics.warning (missingMarker decl) (some decl.name)

/-! ## Processing -/

/-- What is wrong with a concrete controller class apart from its arguments. -/
def classError? (decl : ClassDecl) : Option ProcessingError :=
  if decl.isNested then
    if .static ∉ decl.modifiers then
      some (.structural decl.name
        ("Nested fragment " ++ decl.simpleName ++ " must be static to generate a builder for it"))
    else if .privateAccess ∈ decl.modifiers then
      some (.structural decl.name
        ("Nested fragment " ++ decl.simpleName ++
          " must not be private to generate a builder for it"))
    else none
  else if .privateAccess ∈ decl.modifiers then
    some (.structural decl.name ("Fragment " ++ decl.simpleName ++ " must not be private"))
  else none

/-- Tries to process a candidate: an abstract one has no controller, and an error that ends the
attempt comes with the diagnostics up to it. -/
def attempt (table : ClassTable) (platform : Platform) (decl : ClassDecl)
    (diagnostics : Diagnostics) : Except Controller.Failure (Option Controller × Diagnostics) :=
  if !isController table platform decl.name then
    .error ⟨.structural decl.name
      ("@FragmentWithArgs can only be used on subclasses of Fragment. " ++ decl.simpleName ++
        " is not a Fragment"), diagnostics⟩
  else if decl.isAbstract then
    .ok (none, diagnostics.note (decl.simpleName ++ " is abstract, no builder is generated for it")
      (some decl.name))
  else match classError? decl with
    | some error => .error ⟨error, diagnostics⟩
    | none =>
      match Controller.collect table platform decl diagnostics with
      | .error failure => .error failure
      | .ok collection => .ok (some collection.controller, collection.diagnostics)

/-- Processes a candidate: its controller, if it gets one, with the diagnostics so far. -/
def process (table : ClassTable) (platform : Platform) (decl : ClassDecl)
    (diagnostics : Diagnostics) : Option Controller × Diagnostics :=
  match attempt table platform decl diagnostics with
  | .error failure => (none, failure.diagnostics.report failure.error)
  | .ok result => result

/-- The unit of the builder of a controller. -/
def builderOf (table : ClassTable) (options : Options) (support : Bool) (controller : Controller) :
    SourceUnit :=
  builderUnit (BuilderScope.ofController controller options.platform table
    (if support then some options.supportPackage else none) options.builderAnnotations)

/-- Adds a controller with its builder and its route. -/
def accept (table : ClassTable) (options : Options) (support : Bool) (generation : Generation)
    (controller : Controller) : Generation :=
  { generation with
    units := generation.units ++ [builderOf table options support controller]
    controllers := generation.controllers ++ [controller]
    routes := generation.routes.insert controller.binaryName (routeOf controller) }

/-- Processes a candidate and adds its controller unless an error was reported. -/
def step (table : ClassTable) (options : Options) (support : Bool) (generation : Generation)
    (decl : ClassDecl) : Generation :=
  let (controller?, diagnostics) := process table options.platform decl generation.diagnostics
  let next := { generation with diagnostics }
  match controller? with
  | none => next
  | some controller =>
    -- A controller on the way to which an error was reported gets no builder.
    if diagnostics.errorCount = generation.diagnostics.errorCount then
      next.accept table options support controller
    else next

/-- Adds the dispatch class unless it is left out or has no routes. -/
def addDispatch (options : Options) (generation : Generation) : Generation :=
  if options.library || generation.routes.entries.isEmpty then generation
  else { generation with
    units := generation.units ++ [dispatchUnit options.platform generation.routes] }

/-- The diagnostics of a run before any candidate is processed, and whether support annotations are
used. -/
def preliminary (table : ClassTable) (options : Options) : Bool × Diagnostics :=
  let fresh : Diagnostics := { warningsEnabled := options.logWarnings }
  let (support, diagnostics) := checkSupport table options fresh
  let diagnostics := (strayArguments table options.platform).foldl Diagnostics.report diagnostics
  (support, (unmarkedCandidates table options.platform).foldl warnUnmarked diagnostics)

/-- Generates code for the classes of a table. -/
def run (table : ClassTable) (options : Options) : Generation :=
  let (support, diagnostics) := preliminary table options
  addDispatch options
    ((candidates table options.platform).foldl (step table options support) { diagnostics })

end Generation

end BundleBuilder
