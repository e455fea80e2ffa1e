import BundleBuilder.Text.Alphabetic
import BundleBuilder.Text.Numeric

/-!
# Character classes of names

White space and the two classes of characters that make up an identifier. ASCII characters are
decided by short rules, so that statements about punctuation never unfold a table.
-/

set_option autoImplicit false

namespace BundleBuilder.Text

/-- Code points above ASCII with the Unicode property `White_Space`. -/
def whiteSpaceRanges : CodePointRanges :=
  [(0x85, 0x85), (0xa0, 0xa0), (0x1680, 0x1680), (0x2000, 0x200a), (0x2028, 0x2029),
    (0x202f, 0x202f), (0x205f, 0x205f), (0x3000, 0x3000)]

/-- White space in the sense of the Unicode property `White_Space`. -/
def isWhiteSpace (c : Char) : Bool :=
  if c.toNat < 128 then (decide (9 ≤ c.toNat) && decide (c.toNat ≤ 13)) || c == ' '
  else whiteSpaceRanges.contains c.toNat

/-- An identifier starts with a letter, an underscore or a dollar sign. -/
def isIdentifierStart (c : Char) : Bool :=
  isAlphabetic c || c == '_' || c == '$'

/-- An identifier goes on with letters, numbers, underscores and dollar signs. -/
def isIdentifierPart (c : Char) : Bool :=
  isAlphabetic c || isNumeric c || c == '_' || c == '$'

/-- Every first character of an identifier may also stand further inside. -/
theorem isIdentifierPart_of_start {c : Char} (h : isIdentifierStart c = true) :
    isIdentifierPart c = true := by
  simp only [isIdentifierStart, isIdentifierPart, Bool.or_eq_true] at h ⊢
  rcases h with (h | h) | h
  · exact .inl (.inl (.inl h))
  · exact .inl (.inr h)
  · exact .inr h

/-- A text without its leading and trailing white space. -/
def trim (text : String) : String :=
  String.ofList ((text.toList.dropWhile isWhiteSpace).reverse.dropWhile isWhiteSpace).reverse

end BundleBuilder.Text
