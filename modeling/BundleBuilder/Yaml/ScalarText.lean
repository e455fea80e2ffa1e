import BundleBuilder.Yaml.Cursor

/-!
# The texts of scalars

A scalar is written plainly, between single or double quotes, or as a block of indented lines. Plain
and quoted scalars consist of words with gaps between them: a gap within a line is kept, a gap with
line breaks is folded. In a block a line break is kept or folded according to the style of the
block.
-/

set_option autoImplicit false

namespace BundleBuilder.Yaml

/-! ## Gaps between words -/

/-- The blanks and line breaks between two words. Blanks count only as long as there is no break. -/
structure Gap where
  blanks : List Char := []
  broken : Bool := false
  firstBreak : List Char := []
  moreBreaks : List Char := []

namespace Gap

/-- The gap with a further line break. -/
def addBreak (gap : Gap) (c : Char) : Gap :=
  if gap.broken then { gap with moreBreaks := gap.moreBreaks ++ [c] }
  else { broken := true, firstBreak := [c] }

/-- What a gap contributes to the text of a scalar: a single line feed becomes a space, and the
first of several is dropped. -/
def text (gap : Gap) : List Char :=
  if gap.broken then
    if gap.firstBreak = ['\n'] then
      if gap.moreBreaks.isEmpty then [' '] else gap.moreBreaks
    else gap.firstBreak ++ gap.moreBreaks
  else gap.blanks

end Gap

/-- Reads blanks and line breaks. After a break no tabulator may stand left of column `indent`. -/
def readGap (indent : Nat) (gap : Gap) (cursor : Cursor) : Except Fault (Gap × Cursor) :=
  match _h : cursor.rest with
  | [] => .ok (gap, cursor)
  | c :: rest =>
    if isBreak c then readGap indent (gap.addBreak c) (cursor.after c rest)
    else if isBlank c then
      if gap.broken then
        if c = '\t' ∧ cursor.column < indent then .error .tabInIndentation
        else readGap indent gap (cursor.after c rest)
      else readGap indent { gap with blanks := gap.blanks ++ [c] } (cursor.after c rest)
    else .ok (gap, cursor)
termination_by cursor.rest.length
decreasing_by all_goals simp [Cursor.rest_after, *]

/-! ## Plain scalars -/

/-- Whether a character separates the members of a flow collection. -/
def isFlowIndicator (c : Char) : Bool := [',', '[', ']', '\x7b', '\x7d'].contains c

/-- Reads one word of a plain scalar. A colon ends it in front of a gap; inside a flow collection an
indicator ends it, and a colon directly in front of an indicator is a fault. -/
def readPlainWord (inFlow : Bool) (word : List Char) (cursor : Cursor) :
    Except Fault (List Char × Cursor) :=
  match _h : cursor.rest with
  | [] => .ok (word, cursor)
  | c :: rest =>
    if isBlank c || isBreak c then .ok (word, cursor)
    else if inFlow && c == ':' && rest.head?.any (fun d => isFlowIndicator d || d == '?') then
      .error .colonBeforeIndicator
    else if (c == ':' && isGapAhead rest) || (inFlow && isFlowIndicator c) then .ok (word, cursor)
    else readPlainWord inFlow (word ++ [c]) (cursor.after c rest)
termination_by cursor.rest.length
decreasing_by simp [Cursor.rest_after, *]

/-- What was read of a plain scalar: its text, whether a line break follows it, and what is left. -/
structure PlainText where
  text : List Char
  broken : Bool
  cursor : Cursor

/-- Reads the words of a plain scalar whose lines are indented by at least `indent` columns. -/
def readPlain (indent : Nat) (inFlow : Bool) :
    (budget : Nat) → (text : List Char) → Gap → Cursor → Except Fault PlainText
  | 0, text, gap, cursor => .ok ⟨text, gap.broken, cursor⟩
  | budget + 1, text, gap, cursor =>
    -- A number sign behind a gap begins a comment, which ends the scalar.
    if cursor.isDocumentMarker || cursor.isAt '#' then .ok ⟨text, gap.broken, cursor⟩
    else match readPlainWord inFlow [] cursor with
      | .error fault => .error fault
      | .ok ([], cursor) => .ok ⟨text, gap.broken, cursor⟩
      | .ok (word, cursor) =>
        let text := text ++ gap.text ++ word
        match readGap indent {} cursor with
        | .error fault => .error fault
        | .ok (gap, further) =>
          -- Without a gap the word was ended by an indicator, and so is the scalar.
          if further.index = cursor.index then .ok ⟨text, false, cursor⟩
          else if !inFlow && decide (further.column < indent) then .ok ⟨text, gap.broken, further⟩
          else readPlain indent inFlow budget text gap further

/-! ## Quoted scalars -/

/-- The character that a backslash and one letter stand for. -/
def escapedChar? : Char → Option Char
  | '0' => some '\x00'
  | 'a' => some '\x07'
  | 'b' => some '\x08'
  | 't' => some '\t'
  | '\t' => some '\t'
  | 'n' => some '\n'
  | 'v' => some '\x0b'
  | 'f' => some '\x0c'
  | 'r' => some '\r'
  | 'e' => some '\x1b'
  | ' ' => some ' '
  | '"' => some '"'
  | '/' => some '/'
  | '\\' => some '\\'
  | 'N' => some '\u0085'
  | '_' => some '\u00a0'
  | 'L' => some '\u2028'
  | 'P' => some '\u2029'
  | _ => none

/-- The number of hexadecimal digits that follow a backslash and a letter. -/
def escapeWidth? : Char → Option Nat
  | 'x' => some 2
  | 'u' => some 4
  | 'U' => some 8
  | _ => none

/-- The character after a backslash, and the number of characters that were read for it. -/
def readEscape? : List Char → Option (Char × Nat)
  | [] => none
  | c :: rest =>
    match escapedChar? c with
    | some escaped => some (escaped, 1)
    | none =>
      match escapeWidth? c with
      | none => none
      | some width =>
        if rest.length < width then none
        else match hexValue? (rest.take width) with
          | none => none
          | some code => if code.isValidChar then some (Char.ofNat code, width + 1) else none

/-- The quotation mark of a style of quoting. -/
def quoteMark (double : Bool) : Char := if double then '"' else '\x27'

/-- Reads the text of a quoted scalar up to a gap or the closing quotation mark. The truth value
says whether an escaped line break was read last. -/
def readQuotedWord (double : Bool) :
    (budget : Nat) → (word : List Char) → Cursor → Except Fault (List Char × Bool × Cursor)
  | 0, word, cursor => .ok (word, false, cursor)
  | budget + 1, word, cursor =>
    match cursor.rest with
    | [] => .ok (word, false, cursor)
    | c :: rest =>
      if isBlank c || isBreak c then .ok (word, false, cursor)
      else if c = quoteMark double then
        -- Between single quotation marks two of them stand for one.
        if !double && rest.head? == some c then
          readQuotedWord double budget (word ++ [c]) (cursor.advance 2)
        else .ok (word, false, cursor)
      else if double && c == '\\' then
        -- An escaped break joins two lines without a space.
        if rest.head?.any isBreak then .ok (word, true, cursor.advance 2)
        else match readEscape? rest with
          | none => .error .badEscape
          | some (escaped, width) =>
            readQuotedWord double budget (word ++ [escaped]) (cursor.advance (width + 1))
      else readQuotedWord double budget (word ++ [c]) (cursor.after c rest)

/-- Reads a quoted scalar from behind its opening to behind its closing quotation mark. -/
def readQuoted (double : Bool) :
    (budget : Nat) → (text : List Char) → Cursor → Except Fault (List Char × Cursor)
  | 0, _, _ => .error .exhausted
  | budget + 1, text, cursor =>
    if cursor.isDocumentMarker then .error .markerInQuote
    else if cursor.rest.isEmpty then .error .unfinishedQuote
    else match readQuotedWord double (cursor.rest.length + 1) [] cursor with
      | .error fault => .error fault
      | .ok (word, escapedBreak, cursor) =>
        if cursor.isAt (quoteMark double) then .ok (text ++ word, cursor.next)
        else match readGap 0 { broken := escapedBreak } cursor with
          | .error fault => .error fault
          | .ok (gap, cursor) => readQuoted double budget (text ++ word ++ gap.text) cursor

/-! ## Blocks -/

/-- What becomes of the line breaks at the end of a block. -/
inductive Chomping where
  | strip
  | clip
  | keep
  deriving DecidableEq, Repr

/-- The header of a block: what becomes of its end, and its indentation if the header states it. -/
structure BlockHeader where
  chomping : Chomping := .clip
  indent? : Option Nat := none

/-- The treatment of the end that a sign in a block header asks for. -/
def chompingOf? : Char → Option Chomping
  | '+' => some .keep
  | '-' => some .strip
  | _ => none

/-- An indentation in a block header: a digit from one to nine. -/
def headerIndent? (c : Char) : Option Nat :=
  if c.isDigit && c != '0' then some (c.toNat - 48) else none

/-- Reads the signs of a block header: a treatment of the end and an indentation in any order. -/
def readHeaderSigns (cursor : Cursor) : BlockHeader × Cursor :=
  match cursor.rest with
  | [] => ({}, cursor)
  | c :: rest =>
    match chompingOf? c, headerIndent? c with
    | some chomping, _ =>
      match rest.head?.bind headerIndent? with
      | some indent => (⟨chomping, some indent⟩, cursor.advance 2)
      | none => (⟨chomping, none⟩, cursor.next)
    | none, some indent =>
      match rest.head?.bind chompingOf? with
      | some chomping => (⟨chomping, some indent⟩, cursor.advance 2)
      | none => (⟨.clip, some indent⟩, cursor.next)
    | none, none => ({}, cursor)

/-- Reads a block header with the rest of its line, which may hold a comment. -/
def readHeader (cursor : Cursor) : Except Fault (BlockHeader × Cursor) :=
  let (header, cursor) := readHeaderSigns cursor
  let cursor := cursor.skipWhile isBlank
  let cursor := if cursor.isAt '#' then cursor.skipWhile (fun c => !isBreak c) else cursor
  if isGapAhead cursor.rest then .ok (header, cursor.next) else .error .badBlockHeader

/-- Reads indentation and empty lines in front of a line of a block. Indentation reaches at most to
column `indent`, or as far as there are spaces if that is zero. The number is the widest indentation
seen. -/
def readIndentation (indent widest : Nat) (breaks : List Char) (cursor : Cursor) :
    Except Fault (Nat × List Char × Cursor) :=
  let inside := decide (indent = 0) || decide (cursor.column < indent)
  match _h : cursor.rest with
  | [] => .ok (max widest cursor.column, breaks, cursor)
  | c :: rest =>
    if inside && c == ' ' then readIndentation indent widest breaks (cursor.after c rest)
    else if inside && c == '\t' then .error .tabInIndentation
    else if isBreak c then
      readIndentation indent (max widest cursor.column) (breaks ++ [c]) (cursor.after c rest)
    else .ok (max widest cursor.column, breaks, cursor)
termination_by cursor.rest.length
decreasing_by all_goals simp [Cursor.rest_after, *]

/-- What was read of a block: the text up to the end of a line, the break that ends the line, the
empty lines after it, and whether the line begins with a blank. -/
structure BlockText where
  text : List Char := []
  lineBreak : List Char := []
  emptyLines : List Char := []
  blankStart : Bool := false

/-- What stands between a line of a block and the next one: in a folded block a single line feed
becomes a space unless one of the lines begins with a blank. -/
def BlockText.joint (block : BlockText) (folded blankStart : Bool) : List Char :=
  if folded && block.lineBreak == ['\n'] && !block.blankStart && !blankStart then
    if block.emptyLines.isEmpty then [' '] else block.emptyLines
  else block.lineBreak ++ block.emptyLines

/-- The text of a block after its end has been treated. -/
def BlockText.chomped (block : BlockText) : Chomping → List Char
  | .strip => block.text
  | .clip => block.text ++ block.lineBreak
  | .keep => block.text ++ block.lineBreak ++ block.emptyLines

/-- Reads the lines of a block that begin at column `indent`. -/
def readBlockLines (folded : Bool) (indent : Nat) :
    (budget : Nat) → BlockText → Cursor → Except Fault (BlockText × Cursor)
  | 0, block, cursor => .ok (block, cursor)
  | budget + 1, block, cursor =>
    if cursor.column = indent ∧ ¬ cursor.rest.isEmpty then
      let blankStart := cursor.rest.head?.any isBlank
      let (line, atBreak) := cursor.span (fun c => !isBreak c)
      match readIndentation indent 0 [] atBreak.next with
      | .error fault => .error fault
      | .ok (_, emptyLines, cursor) =>
        readBlockLines folded indent budget
          { text := block.text ++ block.joint folded blankStart ++ line
            lineBreak := atBreak.rest.take 1
            emptyLines := emptyLines
            blankStart := blankStart }
          cursor
    else .ok (block, cursor)

/-- Reads a block from behind its indicator. `floor` is the least column at which its lines may
begin; an indentation in the header counts from `outer`, the column of the enclosing collection. -/
def readBlock (folded : Bool) (floor outer : Nat) (cursor : Cursor) :
    Except Fault (List Char × Cursor) :=
  match readHeader cursor with
  | .error fault => .error fault
  | .ok (header, cursor) =>
    match readIndentation ((header.indent?.map (outer + ·)).getD 0) 0 [] cursor with
    | .error fault => .error fault
    | .ok (widest, emptyLines, cursor) =>
      -- Unless the header says otherwise the first line that is not empty decides the indentation.
      let indent := (header.indent?.map (outer + ·)).getD (max (max widest floor) 1)
      match readBlockLines folded indent (cursor.rest.length + 1) { emptyLines } cursor with
      | .error fault => .error fault
      | .ok (block, cursor) => .ok (block.chomped header.chomping, cursor)

end BundleBuilder.Yaml
