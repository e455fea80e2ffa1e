import BundleBuilder.JavaType.Basic
import BundleBuilder.JavaType.Lexer

/-!
# Reading types

The grammar of type texts, over lexemes:

* a type is a base followed by any number of `[]`;
* a base is a primitive keyword or a dotted name with optional type arguments;
* a type argument is `?`, `? extends` a type, `? super` a type, or a type that is not primitive;
* `void` is a type of its own and only at the top.

A keyword is special only where it is the whole dotted name. The reader looks at one lexeme ahead
and never goes back. Its recursion is bounded by a budget that `parse` takes from the number of
lexemes: three nested calls read at least two lexemes, so the budget never runs out.
-/

set_option autoImplicit false

namespace BundleBuilder.JavaType

/-- Why a text is not a type. -/
inductive Fault where
  | expectedIdentifier
  | voidNotAllowed
  | expectedCommaOrClose
  | expectedBracket
  | voidElement
  | primitiveArgument
  | unexpectedAfterWildcard (word : String)
  | trailingInput (offset : Nat)
  deriving DecidableEq, Repr

/-- The wording of a fault. -/
def Fault.reason : Fault → String
  | expectedIdentifier => "expected identifier"
  | voidNotAllowed => "void is not allowed here"
  | expectedCommaOrClose => "expected ',' or '>' in type arguments"
  | expectedBracket => "expected ']'"
  | voidElement => "void cannot be an array element"
  | primitiveArgument => "primitive types cannot be type arguments"
  | unexpectedAfterWildcard word => "unexpected '" ++ word ++ "' after '?'"
  | trailingInput offset => "unexpected trailing input at offset " ++ toString offset

/-- A text that is not a type, with the fault found in it. -/
structure ParseError where
  input : String
  fault : Fault
  deriving DecidableEq, Repr

/-- The wording of a parse error. -/
def ParseError.message (error : ParseError) : String :=
  "invalid type '" ++ error.input ++ "': " ++ error.fault.reason

/-- The result of reading something from a list of lexemes: what was read and the lexemes left. -/
abbrev Reading (α : Type) := Except Fault (α × List Lexeme)

/-- Reads a dotted name. -/
def readName : List Lexeme → Reading String
  | ⟨.word name, _⟩ :: ⟨.mark '.', _⟩ :: rest =>
    match readName rest with
    | .ok (more, rest) => .ok (name ++ "." ++ more, rest)
    | .error fault => .error fault
  | ⟨.word name, _⟩ :: rest => .ok (name, rest)
  | _ => .error .expectedIdentifier

/-- Reads the array brackets after a type. -/
def readDimensions (element : JavaType) : List Lexeme → Reading JavaType
  | ⟨.mark '[', _⟩ :: ⟨.mark ']', _⟩ :: rest =>
    if element = .void then .error .voidElement else readDimensions (.array element) rest
  | ⟨.mark '[', _⟩ :: _ => .error .expectedBracket
  | rest => .ok (element, rest)

mutual

/-- Reads a type; `void` counts as one only where it is allowed. -/
def readType : (budget : Nat) → (voidAllowed : Bool) → List Lexeme → Reading JavaType
  | 0, _, _ => .error .expectedIdentifier
  | budget + 1, voidAllowed, lexemes =>
    match readName lexemes with
    | .error fault => .error fault
    | .ok (name, rest) =>
      match Primitive.ofKeyword? name with
      | some kind => readDimensions (.primitive kind) rest
      | none =>
        if name = "void" then
          if voidAllowed then readDimensions .void rest else .error .voidNotAllowed
        else match rest with
          | ⟨.mark '<', _⟩ :: rest =>
            match readArguments budget rest with
            | .error fault => .error fault
            | .ok (args, rest) => readDimensions (.declared name args) rest
          | rest => readDimensions (.declared name []) rest

/-- Reads type arguments up to and including the closing bracket. -/
def readArguments : (budget : Nat) → List Lexeme → Reading (List JavaType)
  | 0, _ => .error .expectedIdentifier
  | budget + 1, lexemes =>
    match readArgument budget lexemes with
    | .error fault => .error fault
    | .ok (arg, ⟨.mark ',', _⟩ :: rest) =>
      match readArguments budget rest with
      | .error fault => .error fault
      | .ok (args, rest) => .ok (arg :: args, rest)
    | .ok (arg, ⟨.mark '>', _⟩ :: rest) => .ok ([arg], rest)
    | .ok _ => .error .expectedCommaOrClose

/-- Reads one type argument. -/
def readArgument : (budget : Nat) → List Lexeme → Reading JavaType
  | 0, _ => .error .expectedIdentifier
  | budget + 1, ⟨.mark '?', _⟩ :: rest =>
    match rest with
    | ⟨.mark ',', _⟩ :: _ => .ok (.wildcard, rest)
    | ⟨.mark '>', _⟩ :: _ => .ok (.wildcard, rest)
    | ⟨.word word, _⟩ :: rest =>
      if word = "extends" then
        match readType budget false rest with
        | .error fault => .error fault
        | .ok (bound, rest) => .ok (.wildcardExtends bound, rest)
      else if word = "super" then
        match readType budget false rest with
        | .error fault => .error fault
        | .ok (bound, rest) => .ok (.wildcardSuper bound, rest)
      else .error (.unexpectedAfterWildcard word)
    | _ => .error .expectedIdentifier
  | budget + 1, lexemes =>
    match readType budget false lexemes with
    | .error fault => .error fault
    | .ok (arg, rest) =>
      if arg.isPrimitive then .error .primitiveArgument else .ok (arg, rest)

end

/-- A budget that no reading of the lexemes exhausts. -/
def readingBudget (lexemes : List Lexeme) : Nat := 2 * lexemes.length + 1

/-- Reads a list of lexemes as a whole type. -/
def ofLexemes (lexemes : List Lexeme) : Except Fault JavaType :=
  match readType (readingBudget lexemes) true lexemes with
  | .error fault => .error fault
  | .ok (type, []) => .ok type
  | .ok (_, next :: _) => .error (.trailingInput next.offset)

/-- Reads a text as a type. -/
def parse (text : String) : Except ParseError JavaType :=
  match ofLexemes (lex text) with
  | .error fault => .error ⟨text, fault⟩
  | .ok type => .ok type

end BundleBuilder.JavaType
