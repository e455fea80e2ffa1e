import BundleBuilder.Java.Literal
import BundleBuilder.Text.Dotted

/-!
# Values in JSON notation

Texts, truth values, lists and records, and their notation over several lines with an indentation of
two spaces. Empty lists and records stay on one line.
-/

set_option autoImplicit false

namespace BundleBuilder.Report

/-- A value in JSON notation. -/
inductive Json where
  | null
  | bool (value : Bool)
  | text (value : String)
  | list (items : List Json)
  | record (entries : List (String × Json))

namespace Json

/-- A text, or null if there is none. -/
def ofText? : Option String → Json
  | some value => .text value
  | none => .null

/-- A list of texts. -/
def ofTexts (values : List String) : Json := .list (values.map .text)

/-- A character as it is written inside a text. -/
def escapeChar (c : Char) : List Char :=
  if c = '\x08' then ['\\', 'b']
  else if c = '\x0c' then ['\\', 'f']
  else Java.escapeChar c

/-- A text between quotation marks. -/
def quote (value : String) : String :=
  String.ofList ('"' :: value.toList.flatMap escapeChar ++ ['"'])

/-- A line break and the indentation of a depth. -/
def newLine (depth : Nat) : String := "\n" ++ String.ofList (List.replicate (2 * depth) ' ')

mutual

/-- The notation of a value that stands at a depth. -/
def pretty (depth : Nat) : Json → String
  | null => "null"
  | bool value => if value then "true" else "false"
  | text value => quote value
  | list [] => "[]"
  | list items => "[" ++ prettyItems (depth + 1) items ++ newLine depth ++ "]"
  | record [] => "\x7b\x7d"
  | record entries => "\x7b" ++ prettyEntries (depth + 1) entries ++ newLine depth ++ "\x7d"

/-- The notations of the items of a list, each on a line of its own. -/
def prettyItems (depth : Nat) : List Json → String
  | [] => ""
  | [item] => newLine depth ++ item.pretty depth
  | item :: items => newLine depth ++ item.pretty depth ++ "," ++ prettyItems depth items

/-- The notations of the entries of a record, each on a line of its own. -/
def prettyEntries (depth : Nat) : List (String × Json) → String
  | [] => ""
  | [(key, value)] => newLine depth ++ quote key ++ ": " ++ value.pretty depth
  | (key, value) :: entries =>
    newLine depth ++ quote key ++ ": " ++ value.pretty depth ++ "," ++ prettyEntries depth entries

end

end Json

end BundleBuilder.Report
