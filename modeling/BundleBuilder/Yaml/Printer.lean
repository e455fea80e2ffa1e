import BundleBuilder.Yaml.Node

/-!
# Writing nodes

A node without aliases as a text in flow style on one line. Plain scalars are written as they are;
all other scalars are quoted, with every character escaped that is not a printable one of ASCII.
-/

set_option autoImplicit false

namespace BundleBuilder.Yaml

/-- The lower four bits of a number as a hexadecimal digit. -/
def lowDigit (value : Nat) : Char :=
  let digit := value % 16
  if digit < 10 then Char.ofNat (48 + digit) else Char.ofNat (87 + digit)

/-- The last hexadecimal digits of a number. -/
def lowDigits : (count : Nat) → (value : Nat) → List Char
  | 0, _ => []
  | count + 1, value => lowDigits count (value / 16) ++ [lowDigit value]

/-- A character as it is written between double quotation marks. -/
def escapeQuoted (c : Char) : List Char :=
  if c = '"' ∨ c = '\\' then ['\\', c]
  else if 0x20 ≤ c.toNat ∧ c.toNat ≤ 0x7e then [c]
  else '\\' :: 'U' :: lowDigits 8 c.toNat

/-- A text between double quotation marks. -/
def quote (text : String) : String :=
  String.ofList ('"' :: text.toList.flatMap escapeQuoted ++ ['"'])

/-- A tag in front of a node. -/
def tagText : Option String → String
  | none => ""
  | some tag => "!<" ++ tag ++ "> "

namespace Node

mutual

/-- The text of a node in flow style. -/
def flow : Node → String
  | .scalar text .plain tag? => tagText tag? ++ text
  | .scalar text _ tag? => tagText tag? ++ quote text
  | .sequence tag? items => tagText tag? ++ "[" ++ flowItems items ++ "]"
  | .mapping tag? entries => tagText tag? ++ "\x7b" ++ flowEntries entries ++ "\x7d"
  | .reference _ | .tooDeep => ""

/-- The texts of the items of a sequence, with commas between them. -/
def flowItems : List Node → String
  | [] => ""
  | [item] => item.flow
  | item :: items => item.flow ++ ", " ++ flowItems items

/-- The texts of the entries of a mapping, with commas between them. -/
def flowEntries : List (Node × Node) → String
  | [] => ""
  | [(key, value)] => key.flow ++ ": " ++ value.flow
  | (key, value) :: entries => key.flow ++ ": " ++ value.flow ++ ", " ++ flowEntries entries

end

end Node

end BundleBuilder.Yaml
