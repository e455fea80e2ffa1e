import BundleBuilder.Yaml.Cursor
import BundleBuilder.Yaml.Token

/-!
# Anchors, tags and directives

The tokens that begin with `&`, `*`, `!` and `%`: names of nodes, types of nodes, and instructions
in front of a document.
-/

set_option autoImplicit false

namespace BundleBuilder.Yaml

/-- Reads the name after an ampersand or an asterisk. -/
def readAnchorName (cursor : Cursor) : Except Fault (String × Cursor) :=
  let (name, cursor) := cursor.span isNameChar
  let ends := isGapAhead cursor.rest ||
    cursor.rest.head?.any (['?', ':', ',', ']', '\x7d', '%', '@', '\x60'].contains ·)
  if name.isEmpty || !ends then .error .badAnchor else .ok (String.ofList name, cursor)

/-! ## Tags -/

/-- The number of bytes of the UTF-8 form of a character, by its first byte. -/
def utf8Width? (byte : Nat) : Option Nat :=
  if byte < 0x80 then some 1
  else if 0xc0 ≤ byte ∧ byte < 0xe0 then some 2
  else if 0xe0 ≤ byte ∧ byte < 0xf0 then some 3
  else if 0xf0 ≤ byte ∧ byte < 0xf8 then some 4
  else none

/-- The bits that the first byte of a character of a given width contributes to its code. -/
def utf8LeadBits (byte width : Nat) : Nat :=
  if width = 1 then byte else byte % Nat.pow 2 (7 - width)

/-- Reads a percent sign and two hexadecimal digits as a byte. -/
def readEscapedByte? : List Char → Option (Nat × List Char)
  | '%' :: high :: low :: rest =>
    match hexValue? [high, low] with
    | some byte => some (byte, rest)
    | none => none
  | _ => none

/-- Reads the following bytes of an escaped character. -/
def readTrailingBytes? : (count code : Nat) → List Char → Option Nat
  | 0, code, _ => some code
  | count + 1, code, text =>
    match readEscapedByte? text with
    | none => none
    | some (byte, rest) =>
      if 0x80 ≤ byte ∧ byte < 0xc0 then readTrailingBytes? count (code * 64 + byte % 64) rest
      else none

/-- Reads an escaped character: the character and the number of its bytes. -/
def readEscapedChar? (text : List Char) : Option (Char × Nat) :=
  match readEscapedByte? text with
  | none => none
  | some (byte, rest) =>
    match utf8Width? byte with
    | none => none
    | some width =>
      (readTrailingBytes? (width - 1) (utf8LeadBits byte width) rest).map fun code =>
        (Char.ofNat code, width)

/-- Whether a character may stand in a tag; a tag between angle brackets may hold some flow
indicators. -/
def isTagChar (verbatim : Bool) (c : Char) : Bool :=
  isNameChar c ||
    [';', '/', '?', ':', '@', '&', '=', '+', '$', '.', '!', '~', '*', '\x27', '(', ')',
      '%'].contains c ||
    (verbatim && [',', '[', ']'].contains c)

/-- Reads the characters of a tag. -/
def readTagText (verbatim : Bool) :
    (budget : Nat) → (text : List Char) → Cursor → Except Fault (List Char × Cursor)
  | 0, text, cursor => .ok (text, cursor)
  | budget + 1, text, cursor =>
    match cursor.rest with
    | [] => .ok (text, cursor)
    | c :: rest =>
      if c = '%' then
        match readEscapedChar? (c :: rest) with
        | none => .error .badTag
        | some (escaped, width) =>
          readTagText verbatim budget (text ++ [escaped]) (cursor.advance (3 * width))
      else if isTagChar verbatim c then
        readTagText verbatim budget (text ++ [c]) (cursor.after c rest)
      else .ok (text, cursor)

/-- Reads the characters of a tag, of which there must be some unless some were read before. -/
def readTagSuffix (verbatim : Bool) (before : List Char) (mayBeEmpty : Bool) (cursor : Cursor) :
    Except Fault (List Char × Cursor) :=
  match readTagText verbatim (cursor.rest.length + 1) [] cursor with
  | .error fault => .error fault
  | .ok (text, cursor) =>
    if text.isEmpty && !mayBeEmpty then .error .badTag else .ok (before ++ text, cursor)

/-- Reads what may be a tag handle: an exclamation mark, a name, and if possible another mark. -/
def readHandle (cursor : Cursor) : List Char × Cursor :=
  let (name, cursor) := cursor.next.span isNameChar
  if cursor.isAt '!' then ('!' :: name ++ ['!'], cursor.next) else ('!' :: name, cursor)

/-- Whether what was read is a handle that a directive may define. -/
def isNamedHandle (handle : List Char) : Bool :=
  decide (2 ≤ handle.length) && handle.getLast? == some '!'

/-- Reads the handle and the suffix of a tag. A tag between angle brackets and the tag that is a
single exclamation mark have no handle. -/
def readTagParts (cursor : Cursor) : Except Fault (List Char × List Char × Cursor) :=
  if cursor.next.isAt '<' then
    match readTagSuffix true [] false (cursor.advance 2) with
    | .error fault => .error fault
    | .ok (suffix, cursor) =>
      if cursor.isAt '>' then .ok ([], suffix, cursor.next) else .error .badTag
  else
    let (handle, cursor) := readHandle cursor
    if isNamedHandle handle then
      match readTagSuffix false [] false cursor with
      | .error fault => .error fault
      | .ok (suffix, cursor) => .ok (handle, suffix, cursor)
    else
      match readTagSuffix false handle.tail true cursor with
      | .error fault => .error fault
      | .ok ([], cursor) => .ok ([], ['!'], cursor)
      | .ok (suffix, cursor) => .ok (['!'], suffix, cursor)

/-- Reads a tag, which must be followed by a gap, or in a flow collection by a comma. -/
def readTag (inFlow : Bool) (cursor : Cursor) : Except Fault (Token × Cursor) :=
  match readTagParts cursor with
  | .error fault => .error fault
  | .ok (handle, suffix, cursor) =>
    if isGapAhead cursor.rest || (inFlow && cursor.isAt ',') then
      .ok (.tag (String.ofList handle) (String.ofList suffix), cursor)
    else .error .badTag

/-! ## Directives -/

/-- Reads a number of at most nine digits. -/
def readVersionNumber (cursor : Cursor) : Except Fault (Nat × Cursor) :=
  let (digits, cursor) := cursor.span Char.isDigit
  if digits.isEmpty || decide (9 < digits.length) then .error .badDirective
  else .ok (digits.foldl (fun value c => value * 10 + (c.toNat - 48)) 0, cursor)

/-- Reads a version. -/
def readVersion (cursor : Cursor) : Except Fault (Token × Cursor) :=
  match readVersionNumber (cursor.skipWhile isBlank) with
  | .error fault => .error fault
  | .ok (major, cursor) =>
    if cursor.isAt '.' then
      match readVersionNumber cursor.next with
      | .error fault => .error fault
      | .ok (minor, cursor) => .ok (.versionDirective major minor, cursor)
    else .error .badDirective

/-- Reads the definition of a tag handle. -/
def readTagDefinition (cursor : Cursor) : Except Fault (Token × Cursor) :=
  let cursor := cursor.skipWhile isBlank
  if !cursor.isAt '!' then .error .badDirective
  else
    let (handle, cursor) := readHandle cursor
    if handle ≠ ['!'] ∧ ¬ isNamedHandle handle then .error .badDirective
    else if !cursor.rest.head?.any isBlank then .error .badDirective
    else
      match readTagSuffix true [] false (cursor.skipWhile isBlank) with
      | .error fault => .error fault
      | .ok (start, cursor) =>
        if isGapAhead cursor.rest then
          .ok (.tagDirective (String.ofList handle) (String.ofList start), cursor)
        else .error .badDirective

/-- Reads a directive with the rest of its line, which may hold a comment. -/
def readDirective (cursor : Cursor) : Except Fault (Token × Cursor) :=
  let (name, cursor) := cursor.next.span isNameChar
  let content :=
    if !isGapAhead cursor.rest then .error .badDirective
    else if name = "YAML".toList then readVersion cursor
    else if name = "TAG".toList then readTagDefinition cursor
    else .error .badDirective
  match content with
  | .error fault => .error fault
  | .ok (token, cursor) =>
    let cursor := cursor.skipWhile isBlank
    let cursor := if cursor.isAt '#' then cursor.skipWhile (fun c => !isBreak c) else cursor
    if isGapAhead cursor.rest then .ok (token, cursor.next) else .error .badDirective

end BundleBuilder.Yaml
