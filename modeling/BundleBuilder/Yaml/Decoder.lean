import BundleBuilder.JavaType.Parser
import BundleBuilder.Yaml.Document
import BundleBuilder.Yaml.PlainScalar

/-!
# Reading values from documents

A decoder reads a value of some type from a node. Any scalar is a text; lists and records may be
left empty by writing nothing; a record is a mapping in which each known key occurs at most once and
unknown keys are passed over.
-/

set_option autoImplicit false

namespace BundleBuilder.Yaml

/-- What a decoder looks for. -/
inductive Expectation where
  | text
  | truthValue
  | list
  | record
  | nothing
  | annotationValue
  deriving DecidableEq, Repr

/-- Why a value cannot be read from a node. -/
inductive Mismatch where
  | expected (what : Expectation)
  | unknownWord (word : String)
  | duplicateKey (key : String)
  | missingKey (key : String)
  | badType (error : JavaType.ParseError)
  deriving DecidableEq, Repr

/-- Why a value cannot be read from a text. -/
inductive ReadError where
  | fault (fault : Fault)
  | mismatch (mismatch : Mismatch)
  deriving DecidableEq, Repr

/-- Reads a value from a node. -/
abbrev Decoder (α : Type) := Node → Except Mismatch α

namespace Decoder

/-- The tag of a standard type. -/
def standardTag (name : String) : String := "tag:yaml.org,2002:" ++ name

/-- The name in a tag that begins with an exclamation mark. -/
def localName? (tag? : Option String) : Option String :=
  match tag?.map String.toList with
  | some ['!'] => some "!"
  | some ('!' :: name) => some (String.ofList name)
  | _ => none

/-- Reads any scalar as its text. -/
def text : Decoder String
  | .scalar text _ _ => .ok text
  | _ => .error (.expected .text)

/-- Reads a truth value. -/
def truthValue : Decoder Bool
  | .scalar text style tag? =>
    if style = .plain ∨ (style = .literal ∧ tag? = some (standardTag "bool")) then
      match truthValue? text with
      | some value => .ok value
      | none => .error (.expected .truthValue)
    else .error (.expected .truthValue)
  | _ => .error (.expected .truthValue)

/-- Reads a word of a closed vocabulary, written as a scalar or as the tag of an empty scalar. -/
def word {α : Type} (ofWord? : String → Option α) : Decoder α
  | .scalar text style tag? =>
    match localName? tag? with
    | some name =>
      if style = .plain ∧ (text = "" ∨ isNullWord text = true) then known name
      else .error (.expected .nothing)
    | none => known text
  | _ => .error (.expected .text)
where
  known (name : String) : Except Mismatch α :=
    match ofWord? name with
    | some value => .ok value
    | none => .error (.unknownWord name)

/-- Reads a type. -/
def javaType : Decoder JavaType := fun node =>
  match text node with
  | .error mismatch => .error mismatch
  | .ok text =>
    match JavaType.parse text with
    | .ok type => .ok type
    | .error error => .error (.badType error)

/-- Reads a list; nothing stands for the empty list. -/
def list {α : Type} (item : Decoder α) : Decoder (List α)
  | .sequence _ items => items.mapM item
  | .scalar "" .plain _ => .ok []
  | _ => .error (.expected .list)

/-- Reads a value that may be absent: nothing, or a word for nothing. -/
def nullable {α : Type} (value : Decoder α) : Decoder (Option α) := fun node =>
  match node with
  | .scalar text .plain tag? =>
    match tag? with
    | none => if text = "" ∨ isNullWord text = true then .ok none else some <$> value node
    | some tag =>
      if tag = standardTag "null" then
        if isNullWord text then .ok none else .error (.expected .nothing)
      else some <$> value node
  | node => some <$> value node

/-! ## Records -/

/-- The nodes at the known keys of a record. -/
abbrev Record := List (String × Node)

/-- Collects the known entries of a mapping. -/
def knownEntries (known : List String) (record : Record) :
    List (Node × Node) → Except Mismatch Record
  | [] => .ok record
  | (key, value) :: entries =>
    match text key with
    | .error mismatch => .error mismatch
    | .ok key =>
      if !known.contains key then knownEntries known record entries
      else if (record.lookup key).isSome then .error (.duplicateKey key)
      else knownEntries known ((key, value) :: record) entries

/-- Reads a mapping as a record; nothing stands for the empty record. -/
def record (known : List String) : Decoder Record
  | .mapping _ entries => knownEntries known [] entries
  | .scalar "" .plain _ => .ok []
  | _ => .error (.expected .record)

namespace Record

/-- The value at a key that must be present. -/
def required {α : Type} (record : Record) (key : String) (value : Decoder α) :
    Except Mismatch α :=
  match record.lookup key with
  | some node => value node
  | none => .error (.missingKey key)

/-- The value at a key, or a default. -/
def optional {α : Type} (record : Record) (key : String) (default : α) (value : Decoder α) :
    Except Mismatch α :=
  match record.lookup key with
  | some node => value node
  | none => .ok default

end Record

/-- Reads a value from the one document of a text. -/
def readText {α : Type} (value : Decoder α) (text : String) : Except ReadError α :=
  match read text with
  | .error fault => .error (.fault fault)
  | .ok node =>
    match value node with
    | .error mismatch => .error (.mismatch mismatch)
    | .ok value => .ok value

end Decoder

end BundleBuilder.Yaml
