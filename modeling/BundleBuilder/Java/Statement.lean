import BundleBuilder.Java.Layout
import BundleBuilder.Java.Literal
import BundleBuilder.Storage

/-!
# Statements of generated methods

The texts of the few forms of statements that generated methods are made of: storing arguments in a
bundle, reading them back, assigning them to a controller, and the conditions that guard all this.
Builders fill the bundle in their field `mArguments`; an injector reads the bundle in its variable
`args`.
-/

set_option autoImplicit false

namespace BundleBuilder.Java

/-- What an injector reads from the bundle: a value that a codec decodes, or one that the bundle
returns, possibly after a cast. -/
inductive Reading where
  | decode (codec key : String)
  | fetch (storage : Storage) (key : String) (castTo? : Option String)
  deriving DecidableEq, Repr

/-- A condition of a guarded block. -/
inductive Condition where
  /-- A value is given. -/
  | given (value : String)
  /-- There is no bundle. -/
  | noBundle
  /-- The bundle has a value at a key. -/
  | contains (key : String)
  /-- The bundle has a mark at a key. -/
  | marked (key : String)
  /-- A condition does not hold. -/
  | not (condition : Condition)
  deriving DecidableEq, Repr

/-- The source text of what is read. -/
def Reading.source : Reading → String
  | decode codec key => codec ++ ".get(" ++ stringLiteral key ++ ", args)"
  | fetch storage key none => "args.get" ++ storage.operation ++ "(" ++ stringLiteral key ++ ")"
  | fetch storage key (some type) =>
    "(" ++ type ++ ") args.get" ++ storage.operation ++ "(" ++ stringLiteral key ++ ")"

/-- The source text of a condition. -/
def Condition.source : Condition → String
  | given value => value ++ " != null"
  | noBundle => "args == null"
  | contains key => "args.containsKey(" ++ stringLiteral key ++ ")"
  | marked key => "args.getBoolean(" ++ stringLiteral key ++ ")"
  | not condition => "!" ++ condition.source

/-- The line that begins a block guarded by a condition. -/
def guardHeader (condition : Condition) : String := "if (" ++ condition.source ++ ")"

/-! ## Statements -/

/-- Puts a value into the bundle. -/
def putSource (storage : Storage) (key value : String) : String :=
  "mArguments.put" ++ storage.operation ++ "(" ++ stringLiteral key ++ ", " ++ value ++ ")"

/-- Lets a codec put a value into the bundle. -/
def encodeSource (codec key value : String) : String :=
  codec ++ ".put(" ++ stringLiteral key ++ ", " ++ value ++ ", mArguments)"

/-- Puts a mark into the bundle. -/
def markSource (key : String) : String :=
  "mArguments.putBoolean(" ++ stringLiteral key ++ ", true)"

/-- Fails with a message. -/
def failSource (message : String) : String :=
  "throw new IllegalStateException(" ++ stringLiteral message ++ ")"

/-- Declares a variable for what is read. -/
def declareSource (type name : String) (reading : Reading) : String :=
  type ++ " " ++ name ++ " = " ++ reading.source

/-- Assigns what is read to a field of the controller. -/
def assignSource (field : String) (reading : Reading) : String :=
  "fragment." ++ field ++ " = " ++ reading.source

/-- Calls a setter of the controller. -/
def callSetterSource (setter value : String) : String :=
  "fragment." ++ setter ++ "(" ++ value ++ ")"

end BundleBuilder.Java
