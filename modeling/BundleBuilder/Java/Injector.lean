import BundleBuilder.Java.BuilderScope
import BundleBuilder.Java.Statement

/-!
# Injecting arguments

The method of a builder that takes the arguments out of a controller's bundle and assigns them to
the controller. It fails if a required argument is missing, and passes over missing optional ones. A
value that a codec has stored counts as present if its mark is there.
-/

set_option autoImplicit false

namespace BundleBuilder.Java

/-- The condition that the bundle holds an argument. -/
def presence (platform : Platform) (field : ArgField) : Condition :=
  match field.codecVariable? with
  | some _ => .marked (platform.sentinelKey field.key)
  | none => .contains field.key

/-- What is read for an argument. -/
def readingOf? (names : NameScope) (field : ArgField) : Option Reading :=
  match field.codecVariable?, field.storage? with
  | some codec, _ => some (.decode codec field.key)
  | none, some storage =>
    some (.fetch storage field.key
      (if storage.needsCast then some (names.render field.type) else none))
  | none, none => none

/-- The name of the variable for what is read before it goes through a setter; `count` is the number of
such variables before. -/
def valueName (count : Nat) : String := "value" ++ toString count

/-- The steps that assign an argument, and the number of variables declared so far. What goes through a
setter is first put into a variable. -/
def assignmentSteps (names : NameScope) (field : ArgField) (count : Nat) : List Step × Nat :=
  match readingOf? names field with
  | none => ([], count)
  | some reading =>
    match field.setter? with
    | some setter =>
      ([ .statement (declareSource (names.render field.type) (valueName count) reading),
         .statement (callSetterSource setter (valueName count)) ], count + 1)
    | none => ([.statement (assignSource field.name reading)], count)

/-- What an injector says about a required argument that is missing. -/
def missingMessage (field : ArgField) : String :=
  "required argument " ++ field.key ++ " is not set"

/-- The steps that check for an argument and assign it. The assignment of a required argument stands
behind the check, that of an optional one inside it. -/
def injectionSteps (scope : BuilderScope) (field : ArgField) (count : Nat) : List Step × Nat :=
  let present := presence scope.platform field
  let (assigned, count) := assignmentSteps scope.names field count
  if field.required then
    ([ .opening [] (guardHeader (.not present)),
       .statement (failSource (missingMessage field)),
       .closing ] ++ assigned, count)
  else
    ([.opening [] (guardHeader present)] ++ assigned ++ [.closing], count)

/-- The steps for a list of arguments, an empty line in front of each. -/
def injectionStepsOfAll (scope : BuilderScope) (count : Nat) : List ArgField → List Step
  | [] => []
  | field :: fields =>
    let (steps, count) := injectionSteps scope field count
    .blank :: steps ++ injectionStepsOfAll scope count fields

/-- What an injector says about a controller without a bundle. -/
def noArgumentsMessage : String :=
  "No arguments set. Have you set up this Fragment with the corresponding FragmentArgs Builder? "

namespace BuilderScope

/-- The line that begins the injector. -/
def injectHeader (scope : BuilderScope) : String :=
  "public static final " ++ scope.methodTypeParameters ++ "void injectArguments(" ++
    scope.controllerName ++ " fragment)"

/-- The statement that takes the bundle of the controller. -/
def takeBundle (scope : BuilderScope) : String :=
  scope.bundleName ++ " args = fragment.getArguments()"

/-- The steps that write the method that injects the arguments into a controller. -/
def injectSteps (scope : BuilderScope) : List Step :=
  [ .opening [] scope.injectHeader,
    .statement scope.takeBundle,
    .opening [] (guardHeader .noBundle),
    .statement (failSource noArgumentsMessage),
    .closing ]
    ++ injectionStepsOfAll scope 0 scope.controller.fields ++ [.closing]

end BuilderScope

end BundleBuilder.Java
