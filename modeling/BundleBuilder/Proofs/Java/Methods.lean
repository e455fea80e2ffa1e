import BundleBuilder.Java.Builder

/-!
# Generated methods as trees

The writing of a builder opens and closes blocks one step at a time. What the blocks hold is said here by
trees: a statement is a line or a guarded block of statements, and a method has a body of statements. The
steps of the builder class write these methods, one after the other (`classSteps_eq`), so that what holds
of the methods holds of the text that is generated.
-/

set_option autoImplicit false

namespace BundleBuilder.Java

/-! ## Statements -/

/-- A statement. -/
inductive Statement where
  /-- Puts a value into the bundle. -/
  | put (storage : Storage) (key value : String)
  /-- Lets a codec put a value into the bundle. -/
  | encode (codec key value : String)
  /-- Puts a mark into the bundle. -/
  | mark (key : String)
  /-- Fails with a message. -/
  | fail (message : String)
  /-- Declares a variable for what is read. -/
  | declare (type name : String) (reading : Reading)
  /-- Assigns what is read to a field of the controller. -/
  | assign (field : String) (reading : Reading)
  /-- Calls a setter of the controller. -/
  | callSetter (setter value : String)
  /-- A block that is carried out on a condition. -/
  | when (condition : Condition) (body : List Statement)
  /-- Any other statement. -/
  | other (text : String)
  /-- An empty line. -/
  | space
  deriving Repr

namespace Statement

mutual

/-- The steps that write a statement. -/
def steps : Statement → List Step
  | put storage key value => [.statement (putSource storage key value)]
  | encode codec key value => [.statement (encodeSource codec key value)]
  | mark key => [.statement (markSource key)]
  | fail message => [.statement (failSource message)]
  | declare type name reading => [.statement (declareSource type name reading)]
  | assign field reading => [.statement (assignSource field reading)]
  | callSetter setter value => [.statement (callSetterSource setter value)]
  | when condition body => .opening [] (guardHeader condition) :: (stepsOfAll body ++ [.closing])
  | other text => [.statement text]
  | space => [.blank]

/-- The steps that write a list of statements. -/
def stepsOfAll : List Statement → List Step
  | [] => []
  | statement :: statements => statement.steps ++ stepsOfAll statements

end

theorem stepsOfAll_append (first second : List Statement) :
    stepsOfAll (first ++ second) = stepsOfAll first ++ stepsOfAll second := by
  induction first with
  | nil => rfl
  | cons statement first ih =>
    rw [List.cons_append, stepsOfAll, stepsOfAll, ih, List.append_assoc]

theorem stepsOfAll_flatMap {α : Type} (items : List α) (body : α → List Statement) :
    stepsOfAll (items.flatMap body) = items.flatMap fun item => stepsOfAll (body item) := by
  induction items with
  | nil => rfl
  | cons item items ih => rw [List.flatMap_cons, List.flatMap_cons, stepsOfAll_append, ih]

end Statement

open Statement

/-- A generated method. -/
structure Method where
  annotations : List String := []
  header : String
  body : List Statement

/-- The steps that write a method. -/
def Method.steps (method : Method) : List Step :=
  .opening method.annotations method.header :: (stepsOfAll method.body ++ [.closing])

/-! ## Storing arguments -/

/-- The statements that store a value as an argument. -/
def storing (platform : Platform) (field : ArgField) (value : String) : List Statement :=
  match field.codecVariable?, field.storage? with
  | some codec, _ => [.encode codec field.key value, .mark (platform.sentinelKey field.key)]
  | none, some storage => [.put storage field.key value]
  | none, none => []

/-- The statements that store an argument from the variable of its name. -/
def store (platform : Platform) (field : ArgField) : List Statement :=
  let statements := storing platform field field.variableName
  if isGuarded field then [.when (.given field.variableName) statements] else statements

theorem putSteps_eq (platform : Platform) (field : ArgField) (value : String) :
    putSteps platform field value = stepsOfAll (storing platform field value) := by
  rw [putSteps, storing]
  cases field.codecVariable? with
  | some codec => rfl
  | none => cases field.storage? <;> rfl

theorem storeSteps_eq (platform : Platform) (field : ArgField) :
    storeSteps platform field field.variableName = stepsOfAll (store platform field) := by
  simp only [storeSteps, store, putSteps_eq]
  cases isGuarded field with
  | false => exact List.append_nil _
  | true => exact (List.append_nil _).symm

/-! ## Injecting arguments -/

/-- The statements that assign an argument. What goes through a setter is first put into a variable;
`count` is the number of such variables before. -/
def assignment (names : NameScope) (count : Nat) (field : ArgField) : List Statement :=
  match readingOf? names field, field.setter? with
  | none, _ => []
  | some reading, some setter =>
    let value := "value" ++ toString count
    [.declare (names.render field.type) value reading, .callSetter setter value]
  | some reading, none => [.assign field.name reading]

/-- The number of variables that the assignment of an argument declares. -/
def assignmentVariables (names : NameScope) (field : ArgField) : Nat :=
  if (readingOf? names field).isSome && field.setter?.isSome then 1 else 0

theorem assignmentSteps_eq (names : NameScope) (field : ArgField) (count : Nat) :
    assignmentSteps names field count
      = (stepsOfAll (assignment names count field), count + assignmentVariables names field) := by
  rw [assignmentSteps, assignment, assignmentVariables]
  cases readingOf? names field with
  | none => rfl
  | some reading => cases field.setter? <;> rfl

/-- The statements that check for an argument and assign it. -/
def injection (scope : BuilderScope) (count : Nat) (field : ArgField) : List Statement :=
  let present := presence scope.platform field
  let assigned := assignment scope.names count field
  if field.required then
    .when (.not present) [.fail ("required argument " ++ field.key ++ " is not set")] :: assigned
  else [.when present assigned]

/-- The statements for a list of arguments, an empty line in front of each. -/
def injections (scope : BuilderScope) (count : Nat) : List ArgField → List Statement
  | [] => []
  | field :: fields =>
    .space :: injection scope count field
      ++ injections scope (count + assignmentVariables scope.names field) fields

theorem injectionSteps_eq (scope : BuilderScope) (field : ArgField) (count : Nat) :
    injectionSteps scope field count
      = (stepsOfAll (injection scope count field),
          count + assignmentVariables scope.names field) := by
  simp only [injectionSteps, assignmentSteps_eq, injection]
  cases field.required with
  | false => exact congrArg (·, _) (List.append_nil _).symm
  | true => rfl

theorem injectionStepsOfAll_eq (scope : BuilderScope) (count : Nat) (fields : List ArgField) :
    injectionStepsOfAll scope count fields = stepsOfAll (injections scope count fields) := by
  induction fields generalizing count with
  | nil => rfl
  | cons field fields ih =>
    rw [injectionStepsOfAll, injectionSteps_eq, injections, stepsOfAll_append, ← ih]
    rfl

/-- The method that injects the arguments into a controller. -/
def injectMethod (scope : BuilderScope) : Method where
  header := scope.injectHeader
  body :=
    .other scope.takeBundle ::
      .when .noBundle [.fail noArgumentsMessage] ::
      injections scope 0 scope.controller.fields

namespace BuilderScope

theorem injectSteps_eq (scope : BuilderScope) : scope.injectSteps = (injectMethod scope).steps := by
  rw [injectSteps, injectionStepsOfAll_eq]
  rfl

/-! ## Builders -/

/-- The constructor, which stores the required arguments. -/
def constructorMethod (scope : BuilderScope) : Method where
  header := scope.constructorHeader
  body := scope.requiredFields.flatMap (store scope.platform)

theorem constructorSteps_eq (scope : BuilderScope) :
    scope.constructorSteps = scope.constructorMethod.steps := by
  rw [constructorSteps, Method.steps, constructorMethod, stepsOfAll_flatMap]
  simp only [storeSteps_eq]
  rfl

/-- The static method that makes a controller from the required arguments. -/
def factoryMethod (scope : BuilderScope) : Method where
  annotations := scope.nonNullResult
  header := scope.factoryHeader
  body := [.other scope.returnBuilt]

theorem factorySteps_eq (scope : BuilderScope) : scope.factorySteps = scope.factoryMethod.steps := rfl

/-- The method that stores an optional argument. -/
def fluentMethod (scope : BuilderScope) (field : ArgField) : Method where
  annotations := scope.nonNullResult
  header := scope.fluentHeader field
  body := store scope.platform field ++ [.other "return this"]

theorem fluentSteps_eq (scope : BuilderScope) (field : ArgField) :
    scope.fluentSteps field = (scope.fluentMethod field).steps := by
  rw [fluentSteps, storeSteps_eq, Method.steps, fluentMethod, stepsOfAll_append, List.append_assoc,
    List.append_assoc]
  rfl

/-- The method that returns a copy of the bundle. -/
def bundleMethod (scope : BuilderScope) : Method where
  annotations := scope.nonNullResult
  header := scope.bundleHeader
  body := [.other scope.returnBundle]

theorem bundleSteps_eq (scope : BuilderScope) : scope.bundleSteps = scope.bundleMethod.steps := rfl

/-- The method that makes a controller with the bundle. -/
def buildMethod (scope : BuilderScope) : Method where
  annotations := scope.nonNullResult
  header := scope.buildHeader
  body :=
    [ .other scope.makeController,
      .other "fragment.setArguments(mArguments)",
      .other "return fragment" ]

/-- The method that gives the bundle to a controller that was made elsewhere. -/
def buildGivenMethod (scope : BuilderScope) : Method where
  annotations := scope.nonNullResult
  header := scope.buildGivenHeader
  body := [.other "fragment.setArguments(mArguments)", .other "return fragment"]

theorem buildSteps_eq (scope : BuilderScope) :
    scope.buildSteps = scope.buildMethod.steps ++ .blank :: scope.buildGivenMethod.steps := rfl

/-- The methods of the builder in their order. -/
def methods (scope : BuilderScope) : List Method :=
  [scope.constructorMethod, scope.factoryMethod]
    ++ scope.controller.optional.values.map scope.fluentMethod
    ++ [scope.bundleMethod, injectMethod scope, scope.buildMethod, scope.buildGivenMethod]

/-- The builder class is written as its fields and its methods, with an empty line in front of each. -/
theorem classSteps_eq (scope : BuilderScope) :
    scope.classSteps
      = .opening scope.annotations scope.classHeader :: .blank :: (scope.fieldSteps
        ++ scope.methods.flatMap (fun method => .blank :: method.steps) ++ [.closing]) := by
  have hfluent : scope.controller.optional.values.flatMap
        (fun field => .blank :: scope.fluentSteps field)
      = (scope.controller.optional.values.map scope.fluentMethod).flatMap
        (fun method => .blank :: method.steps) := by
    rw [List.flatMap_map]
    simp only [fluentSteps_eq]
  rw [classSteps, hfluent, constructorSteps_eq, factorySteps_eq, bundleSteps_eq, injectSteps_eq,
    buildSteps_eq, methods]
  simp only [List.flatMap_append, List.flatMap_cons, List.flatMap_nil, List.cons_append,
    List.append_assoc, List.nil_append, List.append_nil]

end BuilderScope

end BundleBuilder.Java
