import BundleBuilder.Proofs.Java.Methods

/-!
# Carrying out generated statements

A meaning for the statements of generated methods. What the statements rely on and what is not
generated is a parameter, `Runtime`: the methods of bundles, the codecs, and casts. What is known of
it are the laws of `Runtime.Lawful`: a get method returns what the put method of its kind took, a
codec reads back what it wrote and touches no key but its own, and an absent mark is not set.

A statement stops with a fault where generated code would throw. It also stops where a name that it
uses does not denote the member of the builder that it is meant to denote, because a parameter or a
variable of that name hides it.
-/

set_option autoImplicit false

namespace BundleBuilder.Java

/-! ## What generated code relies on -/

/-- The operations on bundles, codecs and objects. A value is an object or, as `none`, the null
reference; a bundle holds at most one slot at a key. -/
structure Runtime where
  Object : Type
  Slot : Type
  /-- Whether a put method accepts a value. -/
  takes : Storage → Option Object → Bool
  /-- What a put method leaves at its key. -/
  stored : Storage → Option Object → Slot
  /-- What a get method returns for what is at its key. -/
  fetched : Storage → Option Slot → Option Object
  /-- The true boolean. -/
  truth : Object
  /-- Whether a value is the true boolean. -/
  isTruth : Option Object → Bool
  /-- Whether a codec class accepts a value. -/
  encodes : String → Option Object → Bool
  /-- What a codec class makes of a bundle when it puts a value at a key. -/
  encode : String → String → Option Object → (String → Option Slot) → (String → Option Slot)
  /-- What a codec class gets from a bundle for a key. -/
  decode : String → String → (String → Option Slot) → Option Object
  /-- Whether a value can be cast to a type, given as it is written. -/
  casts : String → Option Object → Bool

namespace Runtime

/-- A value: an object or the null reference. -/
abbrev Value (runtime : Runtime) : Type := Option runtime.Object

/-- A bundle by what it holds at each key. -/
abbrev Bundle (runtime : Runtime) : Type := String → Option runtime.Slot

/-- The bundle with a slot at a key. -/
def put {runtime : Runtime} (bundle : runtime.Bundle) (key : String) (slot : runtime.Slot) :
    runtime.Bundle :=
  fun other => if other = key then some slot else bundle other

/-- The bundle with a mark at a key. -/
def mark {runtime : Runtime} (bundle : runtime.Bundle) (key : String) : runtime.Bundle :=
  put bundle key (runtime.stored (.single .boolean) (some runtime.truth))

/-- Whether a bundle has a mark at a key. -/
def isMarked {runtime : Runtime} (bundle : runtime.Bundle) (key : String) : Bool :=
  runtime.isTruth (runtime.fetched (.single .boolean) (bundle key))

/-- What is known of the operations. -/
structure Lawful (runtime : Runtime) : Prop where
  fetched_stored {storage : Storage} {value : runtime.Value} :
    runtime.takes storage value = true →
      runtime.fetched storage (some (runtime.stored storage value)) = value
  takes_truth : runtime.takes (.single .boolean) (some runtime.truth) = true
  isTruth_truth : runtime.isTruth (some runtime.truth) = true
  isTruth_absent : runtime.isTruth (runtime.fetched (.single .boolean) none) = false
  decode_encode {codec key : String} {value : runtime.Value} {bundle : runtime.Bundle} :
    runtime.encodes codec value = true →
      runtime.decode codec key (runtime.encode codec key value bundle) = value
  encode_other {codec key other : String} {value : runtime.Value} {bundle : runtime.Bundle} :
    other ≠ key → runtime.encode codec key value bundle other = bundle other
  decode_congr {codec key : String} {first second : runtime.Bundle} :
    first key = second key → runtime.decode codec key first = runtime.decode codec key second

end Runtime

/-! ## States -/

/-- Why a method stops. -/
inductive Fault where
  /-- The method throws with a message. -/
  | illegalState (message : String)
  /-- There is no bundle to work on. -/
  | noBundle
  /-- A method or a codec does not accept a value, such as the null reference for a primitive. -/
  | refused (value : String)
  /-- A value does not have the type that it is cast to. -/
  | badCast (type : String)
  /-- A name does not denote what the statement needs. -/
  | unresolved (name : String)
  deriving DecidableEq, Repr

/-- Where an injector takes a value: to a field of the controller or to a setter. -/
inductive Target where
  | field (name : String)
  | setter (name : String)
  deriving DecidableEq, Repr

/-- A value that a controller has received. -/
structure Delivery (runtime : Runtime) where
  target : Target
  value : runtime.Value

/-- A method at work: its parameters and variables, the bundle and what was delivered so far. -/
structure Frame (runtime : Runtime) where
  locals : List (String × runtime.Value)
  bundle? : Option runtime.Bundle
  deliveries : List (Delivery runtime) := []

/-- A method that stopped, with what it had delivered before. -/
structure Stop (runtime : Runtime) where
  fault : Fault
  deliveries : List (Delivery runtime)

namespace Frame

variable {runtime : Runtime}

/-- Stops with a fault. -/
def stop {α : Type} (frame : Frame runtime) (fault : Fault) : Except (Stop runtime) α :=
  .error ⟨fault, frame.deliveries⟩

/-- Whether a parameter or a variable hides a member of a name. -/
def hides (frame : Frame runtime) (name : String) : Bool := (frame.locals.lookup name).isSome

/-- The class of the codec that a name denotes. -/
def codecClass? (frame : Frame runtime) (codecs : List (String × String)) (name : String) :
    Option String :=
  if frame.hides name then none else (codecs.find? fun entry => entry.2 == name).map (·.1)

/-- Puts a value into the builder's bundle. -/
def put (frame : Frame runtime) (storage : Storage) (key name : String) :
    Except (Stop runtime) (Frame runtime) :=
  if frame.hides "mArguments" then frame.stop (.unresolved "mArguments")
  else match frame.bundle?, frame.locals.lookup name with
    | none, _ => frame.stop .noBundle
    | some _, none => frame.stop (.unresolved name)
    | some bundle, some value =>
      if runtime.takes storage value then
        .ok { frame with bundle? := some (Runtime.put bundle key (runtime.stored storage value)) }
      else frame.stop (.refused name)

/-- Lets a codec put a value into the builder's bundle. -/
def encode (frame : Frame runtime) (codecs : List (String × String)) (codec key name : String) :
    Except (Stop runtime) (Frame runtime) :=
  if frame.hides "mArguments" then frame.stop (.unresolved "mArguments")
  else match frame.codecClass? codecs codec, frame.bundle?, frame.locals.lookup name with
    | none, _, _ => frame.stop (.unresolved codec)
    | some _, none, _ => frame.stop .noBundle
    | some _, some _, none => frame.stop (.unresolved name)
    | some className, some bundle, some value =>
      if runtime.encodes className value then
        .ok { frame with bundle? := some (runtime.encode className key value bundle) }
      else frame.stop (.refused name)

/-- Puts a mark into the builder's bundle. -/
def mark (frame : Frame runtime) (key : String) : Except (Stop runtime) (Frame runtime) :=
  if frame.hides "mArguments" then frame.stop (.unresolved "mArguments")
  else match frame.bundle? with
    | none => frame.stop .noBundle
    | some bundle => .ok { frame with bundle? := some (Runtime.mark bundle key) }

/-- What is read from the bundle. -/
def read (frame : Frame runtime) (codecs : List (String × String)) :
    Reading → Except (Stop runtime) runtime.Value
  | .decode codec key =>
    match frame.codecClass? codecs codec, frame.bundle? with
    | none, _ => frame.stop (.unresolved codec)
    | some _, none => frame.stop .noBundle
    | some className, some bundle => .ok (runtime.decode className key bundle)
  | .fetch storage key castTo? =>
    match frame.bundle? with
    | none => frame.stop .noBundle
    | some bundle =>
      let value := runtime.fetched storage (bundle key)
      match castTo? with
      | none => .ok value
      | some type => if runtime.casts type value then .ok value else frame.stop (.badCast type)

/-- Delivers a value to the controller. -/
def deliver (frame : Frame runtime) (target : Target) (value : runtime.Value) : Frame runtime :=
  { frame with deliveries := frame.deliveries ++ [⟨target, value⟩] }

/-- Declares a variable, whose name must be new. -/
def declare (frame : Frame runtime) (name : String) (value : runtime.Value) :
    Except (Stop runtime) (Frame runtime) :=
  if frame.hides name then frame.stop (.unresolved name)
  else .ok { frame with locals := (name, value) :: frame.locals }

/-- Whether a condition holds. -/
def holds (frame : Frame runtime) : Condition → Except (Stop runtime) Bool
  | .given name =>
    match frame.locals.lookup name with
    | none => frame.stop (.unresolved name)
    | some value => .ok value.isSome
  | .noBundle => .ok frame.bundle?.isNone
  | .contains key =>
    match frame.bundle? with
    | none => frame.stop .noBundle
    | some bundle => .ok (bundle key).isSome
  | .marked key =>
    match frame.bundle? with
    | none => frame.stop .noBundle
    | some bundle => .ok (Runtime.isMarked bundle key)
  | .not condition =>
    match frame.holds condition with
    | .error stop => .error stop
    | .ok truth => .ok !truth

end Frame

/-! ## Statements -/

section Statements

variable {runtime : Runtime} (codecs : List (String × String))

mutual

/-- Carries out a statement. -/
def exec : Statement → Frame runtime → Except (Stop runtime) (Frame runtime)
  | .put storage key value, frame => frame.put storage key value
  | .encode codec key value, frame => frame.encode codecs codec key value
  | .mark key, frame => frame.mark key
  | .fail message, frame => frame.stop (.illegalState message)
  | .declare _ name reading, frame =>
    match frame.read codecs reading with
    | .error stop => .error stop
    | .ok value => frame.declare name value
  | .assign field reading, frame =>
    match frame.read codecs reading with
    | .error stop => .error stop
    | .ok value => .ok (frame.deliver (.field field) value)
  | .callSetter setter name, frame =>
    match frame.locals.lookup name with
    | none => frame.stop (.unresolved name)
    | some value => .ok (frame.deliver (.setter setter) value)
  | .when condition body, frame =>
    match frame.holds condition with
    | .error stop => .error stop
    | .ok false => .ok frame
    | .ok true =>
      match execAll body frame with
      | .error stop => .error stop
      | .ok after => .ok { after with locals := frame.locals }
  | .other _, frame => .ok frame
  | .space, frame => .ok frame

/-- Carries out statements one after the other. -/
def execAll : List Statement → Frame runtime → Except (Stop runtime) (Frame runtime)
  | [], frame => .ok frame
  | statement :: statements, frame =>
    match exec statement frame with
    | .error stop => .error stop
    | .ok next => execAll statements next

end

end Statements

/-! ## Builders at work -/

section Builders

variable {runtime : Runtime} (scope : BuilderScope)

/-- The codec classes of a builder with their variables. -/
def BuilderScope.codecVariables : List (String × String) := scope.controller.codecs.entries

/-- Carries out a method of the builder with some parameters on the builder's bundle. -/
def fill (method : Method) (parameters : List (String × runtime.Value)) (bundle : runtime.Bundle) :
    Except (Stop runtime) runtime.Bundle :=
  match execAll scope.codecVariables method.body ⟨parameters, some bundle, []⟩ with
  | .error stop => .error stop
  | .ok frame => .ok (frame.bundle?.getD bundle)

/-- Constructs a builder from values for the required arguments, by their variable names. -/
def construct (values : String → runtime.Value) : Except (Stop runtime) runtime.Bundle :=
  fill scope scope.constructorMethod
    (scope.requiredFields.map fun field => (field.variableName, values field.variableName))
    fun _ => none

/-- A call of the method of an optional argument. -/
structure Call (runtime : Runtime) where
  field : ArgField
  value : runtime.Value

/-- Calls methods of optional arguments one after the other. -/
def callAll : List (Call runtime) → runtime.Bundle → Except (Stop runtime) runtime.Bundle
  | [], bundle => .ok bundle
  | call :: calls, bundle =>
    match fill scope (scope.fluentMethod call.field) [(call.field.variableName, call.value)]
        bundle with
    | .error stop => .error stop
    | .ok next => callAll calls next

/-- Injects the arguments of a bundle, if there is one, into a controller. -/
def inject (bundle? : Option runtime.Bundle) : Except (Stop runtime) (List (Delivery runtime)) :=
  match execAll scope.codecVariables (injectMethod scope).body ⟨[], bundle?, []⟩ with
  | .error stop => .error stop
  | .ok frame => .ok frame.deliveries

/-- Constructs a builder, calls methods of optional arguments and injects the bundle. -/
def buildAndInject (values : String → runtime.Value) (calls : List (Call runtime)) :
    Except (Stop runtime) (List (Delivery runtime)) :=
  match construct scope values with
  | .error stop => .error stop
  | .ok bundle =>
    match callAll scope calls bundle with
    | .error stop => .error stop
    | .ok bundle => inject scope (some bundle)

end Builders

end BundleBuilder.Java
