import BundleBuilder.Text.Dotted

/-!
# Layout of generated source

A source text is written by a list of steps that open blocks, close them and fill them with lines.
Every line is indented by four spaces for each open block. Closing without an open block leaves the
depth at zero.
-/

set_option autoImplicit false

namespace BundleBuilder.Java

/-- A step of writing source text. -/
inductive Step where
  | comment (text : String)
  | package (name : String)
  | imports (names : List String)
  | opening (annotations : List String) (header : String)
  | closing
  | field (declaration : String)
  | statement (text : String)
  | blank
  deriving DecidableEq, Repr

namespace Step

/-- The number of open blocks after a step. -/
def depthAfter (depth : Nat) : Step → Nat
  | opening _ _ => depth + 1
  | closing => depth - 1
  | _ => depth

end Step

/-- A text behind the indentation of a depth. -/
def indented (depth : Nat) (text : String) : String :=
  String.ofList (List.replicate (4 * depth) ' ') ++ text

/-- A line that begins a block. -/
def openingLine (header : String) : String := header ++ " \x7b"

namespace Step

/-- The lines that a step writes where a number of blocks is open. -/
def lines (depth : Nat) : Step → List String
  | comment text => [indented depth ("/* " ++ text ++ " */")]
  | package name => if name = "" then [] else [indented depth ("package " ++ name ++ ";"), ""]
  | imports names =>
    if names.isEmpty then []
    else names.map (fun name => indented depth ("import " ++ name ++ ";")) ++ [""]
  | opening annotations header => (annotations ++ [openingLine header]).map (indented depth)
  | closing => [indented (depth - 1) "\x7d"]
  | field declaration => [indented depth (declaration ++ ";")]
  | statement text => [indented depth (text ++ ";")]
  | blank => [""]

end Step

/-- The lines that a list of steps writes where a number of blocks is open. -/
def linesFrom (depth : Nat) : List Step → List String
  | [] => []
  | step :: steps => step.lines depth ++ linesFrom (step.depthAfter depth) steps

/-- The text that a list of steps writes. -/
def layout (steps : List Step) : String :=
  String.join ((linesFrom 0 steps).map fun line => line ++ "\n")

end BundleBuilder.Java
