import BundleBuilder.Java.Injector

/-!
# Builders

The builder of a controller: a class whose constructor takes the required arguments, with a method
for each optional one, methods that build the controller and the bundle, and the injector.
-/

set_option autoImplicit false

namespace BundleBuilder.Java

/-- Whether an argument is stored only if it is given: an optional one that may be null. -/
def isGuarded (field : ArgField) : Bool := !field.required && !field.type.isPrimitive

/-- The steps that put a value into the bundle, through the codec of the argument if it has one. -/
def putSteps (platform : Platform) (field : ArgField) (value : String) : List Step :=
  match field.codecVariable?, field.storage? with
  | some codec, _ =>
    [ .statement (encodeSource codec field.key value),
      .statement (markSource (platform.sentinelKey field.key)) ]
  | none, some storage => [.statement (putSource storage field.key value)]
  | none, none => []

/-- The steps that store a value as an argument. A block around them is opened if the argument is
guarded, and closed if it is. -/
def storeSteps (platform : Platform) (field : ArgField) (value : String) : List Step :=
  let guarded := isGuarded field
  (if guarded then [.opening [] (guardHeader (.given value))] else [])
    ++ putSteps platform field value
    ++ (if guarded then [.closing] else [])

namespace BuilderScope

/-- The required arguments in the order of the constructor. -/
def requiredFields (scope : BuilderScope) : List ArgField := scope.controller.required.values

/-! ## The constructor and the methods -/

/-- The line that begins the constructor. -/
def constructorHeader (scope : BuilderScope) : String :=
  "public " ++ scope.controller.builderName ++ "(" ++ scope.parameters scope.requiredFields ++ ")"

/-- The steps that write the constructor, which stores the required arguments. -/
def constructorSteps (scope : BuilderScope) : List Step :=
  [.opening [] scope.constructorHeader]
    ++ scope.requiredFields.flatMap (fun field => storeSteps scope.platform field field.variableName)
    ++ [.closing]

/-- The line that begins the factory. -/
def factoryHeader (scope : BuilderScope) : String :=
  "public static " ++ scope.methodTypeParameters ++ scope.controllerName ++ " new" ++
    scope.controller.simpleName ++ "(" ++ scope.parameters scope.requiredFields ++ ")"

/-- The statement that builds a controller from the required arguments. -/
def returnBuilt (scope : BuilderScope) : String :=
  "return new " ++ scope.builderType ++ "(" ++
    Text.join ", " (scope.requiredFields.map ArgField.variableName) ++ ").build()"

/-- The steps that write the static method that makes a controller from the required arguments. -/
def factorySteps (scope : BuilderScope) : List Step :=
  [.opening scope.nonNullResult scope.factoryHeader, .statement scope.returnBuilt, .closing]

/-- The line that begins the method of an optional argument. -/
def fluentHeader (scope : BuilderScope) (field : ArgField) : String :=
  "public " ++ scope.builderType ++ " " ++ field.variableName ++ "(" ++ scope.parameter field ++ ")"

/-- The steps that write the method that stores an optional argument. -/
def fluentSteps (scope : BuilderScope) (field : ArgField) : List Step :=
  [.opening scope.nonNullResult (scope.fluentHeader field)]
    ++ storeSteps scope.platform field field.variableName
    ++ [.statement "return this", .closing]

/-- The line that begins the method for the bundle. -/
def bundleHeader (scope : BuilderScope) : String := "public " ++ scope.bundleName ++ " buildBundle()"

/-- The statement that returns a copy of the bundle. -/
def returnBundle (scope : BuilderScope) : String := "return new " ++ scope.bundleName ++ "(mArguments)"

/-- The steps that write the method that returns a copy of the bundle. -/
def bundleSteps (scope : BuilderScope) : List Step :=
  [.opening scope.nonNullResult scope.bundleHeader, .statement scope.returnBundle, .closing]

/-- The line that begins the method that makes a controller. -/
def buildHeader (scope : BuilderScope) : String := "public " ++ scope.controllerName ++ " build()"

/-- The statement that makes a controller without arguments. -/
def makeController (scope : BuilderScope) : String :=
  scope.controllerName ++ " fragment = new " ++ scope.controllerName ++ "()"

/-- The line that begins the method for a controller that was made elsewhere. -/
def buildGivenHeader (scope : BuilderScope) : String :=
  "public <F extends " ++ scope.controllerName ++ "> F build(" ++
    ((scope.marks?.map fun marks => marks.nonNull ++ " ").getD "") ++ "F fragment)"

/-- The steps that write the two methods that give the bundle to a controller, to a new one and to one
that was made elsewhere. -/
def buildSteps (scope : BuilderScope) : List Step :=
  [ .opening scope.nonNullResult scope.buildHeader,
    .statement scope.makeController,
    .statement "fragment.setArguments(mArguments)",
    .statement "return fragment",
    .closing,
    .blank,
    .opening scope.nonNullResult scope.buildGivenHeader,
    .statement "fragment.setArguments(mArguments)",
    .statement "return fragment",
    .closing ]

/-! ## The class -/

/-- The steps that write the fields of the builder: the bundle and the codecs. -/
def fieldSteps (scope : BuilderScope) : List Step :=
  .field ("private final " ++ scope.bundleName ++ " mArguments = new " ++ scope.bundleName ++ "()")
    :: scope.controller.codecs.entries.map fun entry =>
      let codec := scope.names.name entry.1
      .field ("private static final " ++ codec ++ " " ++ entry.2 ++ " = new " ++ codec ++ "()")

/-- The line that begins the builder class. -/
def classHeader (scope : BuilderScope) : String :=
  "public final class " ++ scope.controller.builderName ++ scope.controller.typeParametersDeclaration

/-- The steps that write the builder class. -/
def classSteps (scope : BuilderScope) : List Step :=
  [.opening scope.annotations scope.classHeader, .blank] ++ scope.fieldSteps
    ++ .blank :: scope.constructorSteps
    ++ .blank :: scope.factorySteps
    ++ scope.controller.optional.values.flatMap (fun field => .blank :: scope.fluentSteps field)
    ++ .blank :: scope.bundleSteps
    ++ .blank :: scope.injectSteps
    ++ .blank :: scope.buildSteps
    ++ [.closing]

end BuilderScope

end BundleBuilder.Java
