/-!
# Literals of generated source

String literals and annotations as they are written in generated source. A string literal escapes
quotation marks, backslashes and control characters; everything else stands for itself.
-/

set_option autoImplicit false

namespace BundleBuilder.Java

/-- The hexadecimal digit of a number below sixteen. -/
def hexDigit (value : Nat) : Char :=
  if value < 10 then Char.ofNat (48 + value) else Char.ofNat (87 + value)

/-- The four hexadecimal digits of a number below 65536. -/
def hexDigits (value : Nat) : List Char :=
  [hexDigit (value / 4096 % 16), hexDigit (value / 256 % 16), hexDigit (value / 16 % 16),
    hexDigit (value % 16)]

/-- A character as it is written inside a string literal. -/
def escapeChar (c : Char) : List Char :=
  if c = '"' then ['\\', '"']
  else if c = '\\' then ['\\', '\\']
  else if c = '\n' then ['\\', 'n']
  else if c = '\r' then ['\\', 'r']
  else if c = '\t' then ['\\', 't']
  else if c.toNat < 32 then '\\' :: 'u' :: hexDigits c.toNat
  else [c]

/-- The string literal of a text. -/
def stringLiteral (text : String) : String :=
  String.ofList ('"' :: text.toList.flatMap escapeChar ++ ['"'])

/-- An annotation by its name, which may have its at sign already. -/
def annotationText (name : String) : String :=
  if name.toList.head? = some '@' then name else "@" ++ name

end BundleBuilder.Java
