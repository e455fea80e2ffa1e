/-!
# Positions in a document text

A cursor is the text that is still to be read together with the line, the column and the index of
its first character. Line breaks are made uniform before reading, so that a line break is always one
character.
-/

set_option autoImplicit false

namespace BundleBuilder.Yaml

/-- Why a text is not a document. -/
inductive Fault where
  | controlCharacter
  | unexpectedCharacter
  | tabInIndentation
  | unfinishedQuote
  | markerInQuote
  | badEscape
  | colonBeforeIndicator
  | badBlockHeader
  | badAnchor
  | badTag
  | badDirective
  | missingColon
  | entryNotAllowed
  | keyNotAllowed
  | valueNotAllowed
  | undefinedHandle (handle : String)
  | unknownAnchor (name : String)
  | missingContent
  | missingIndicator
  | missingDocumentStart
  | furtherDocument
  | exhausted
  deriving DecidableEq, Repr

/-- Whether a character may stand in a document text. -/
def isAllowed (c : Char) : Bool :=
  let code := c.toNat
  code == 9 || code == 10 || code == 13 || code == 0x85 ||
    (decide (0x20 ≤ code) && decide (code ≤ 0x7e)) ||
    (decide (0xa0 ≤ code) && decide (code ≤ 0xfffd)) || decide (0x10000 ≤ code)

/-- A line break; all kinds but the line and the paragraph separator are read as a line feed. -/
def isBreak (c : Char) : Bool := c == '\n' || c == '\u2028' || c == '\u2029'

/-- A space or a tabulator. -/
def isBlank (c : Char) : Bool := c == ' ' || c == '\t'

/-- A letter, digit, underscore or hyphen of ASCII: a character of an anchor or a tag handle. -/
def isNameChar (c : Char) : Bool := c.isAlphanum || c == '_' || c == '-'

/-- The value of a hexadecimal digit. -/
def hexDigit? (c : Char) : Option Nat :=
  if c.isDigit then some (c.toNat - 48)
  else if 'a' ≤ c ∧ c ≤ 'f' then some (c.toNat - 87)
  else if 'A' ≤ c ∧ c ≤ 'F' then some (c.toNat - 55)
  else none

/-- The number that a list of hexadecimal digits denotes. -/
def hexValue? (digits : List Char) : Option Nat :=
  digits.foldl
    (fun value? c => value?.bind fun value => (hexDigit? c).map fun digit => value * 16 + digit)
    (some 0)

/-- A text with every carriage return, next line character and pair of carriage return and line feed
replaced by a line feed. -/
def uniformBreaks : List Char → List Char
  | [] => []
  | '\r' :: '\n' :: rest => '\n' :: uniformBreaks rest
  | c :: rest => (if c = '\r' ∨ c = '\u0085' then '\n' else c) :: uniformBreaks rest

/-- Whether a text is at its end or begins with a blank or a line break. -/
def isGapAhead : List Char → Bool
  | [] => true
  | c :: _ => isBlank c || isBreak c

/-- A position in a text: what follows it, its line, its column and its index. -/
structure Cursor where
  rest : List Char
  line : Nat := 0
  column : Nat := 0
  index : Nat := 0
  deriving Repr

namespace Cursor

/-- The position after a character that is followed by `rest`. -/
def after (cursor : Cursor) (c : Char) (rest : List Char) : Cursor :=
  if isBreak c then ⟨rest, cursor.line + 1, 0, cursor.index + 1⟩
  else ⟨rest, cursor.line, cursor.column + 1, cursor.index + 1⟩

theorem rest_after (cursor : Cursor) (c : Char) (rest : List Char) :
    (cursor.after c rest).rest = rest := by
  unfold after
  split <;> rfl

/-- The position one character further. -/
def next (cursor : Cursor) : Cursor :=
  match cursor.rest with
  | [] => cursor
  | c :: rest => cursor.after c rest

/-- The position a number of characters further. -/
def advance (cursor : Cursor) : Nat → Cursor
  | 0 => cursor
  | count + 1 => cursor.next.advance count

/-- The longest run of characters that satisfy a predicate, and the position after it. The predicate
must not hold of line breaks. -/
def span (cursor : Cursor) (p : Char → Bool) : List Char × Cursor :=
  let taken := cursor.rest.takeWhile p
  (taken, cursor.advance taken.length)

/-- The position after a run of characters that satisfy a predicate. -/
def skipWhile (cursor : Cursor) (p : Char → Bool) : Cursor := (cursor.span p).2

/-- Whether the text goes on with a given character. -/
def isAt (cursor : Cursor) (c : Char) : Bool := cursor.rest.head? == some c

/-- Whether three given characters in front of a gap begin a line here. -/
def isMarker (cursor : Cursor) (c : Char) : Bool :=
  cursor.column == 0 && cursor.rest.take 3 == [c, c, c] && isGapAhead (cursor.rest.drop 3)

/-- Whether a line begins here that starts or ends a document. -/
def isDocumentMarker (cursor : Cursor) : Bool := cursor.isMarker '-' || cursor.isMarker '.'

end Cursor

end BundleBuilder.Yaml
