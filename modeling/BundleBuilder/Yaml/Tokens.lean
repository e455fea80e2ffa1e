import BundleBuilder.Yaml.Properties
import BundleBuilder.Yaml.ScalarText

/-!
# The tokens of a text

A text is read token by token. Whether a node is the key of a mapping shows only at the colon behind
it, so every position at which a key may begin is remembered, one for each level of flow
collections; at the colon the key token, and in a new block mapping its start token, are put in
front of the node. A key lies on one line and has at most 1024 characters. Block collections are
opened and closed by the column of their members.
-/

set_option autoImplicit false

namespace BundleBuilder.Yaml

/-- A position at which a key may begin: the number of tokens before it and its place in the text. A
key is required where a node begins at the column of its block collection. -/
structure KeyStart where
  required : Bool
  position : Nat
  line : Nat
  index : Nat
  column : Nat

/-- The state of reading tokens. The tokens read so far are listed from the last to the first; the
columns of the open block collections from the innermost to the outermost. -/
structure TokenReader where
  cursor : Cursor
  tokens : List Token := []
  columns : List Nat := []
  keyAllowed : Bool := true
  key? : Option KeyStart := none
  outerKeys : List (Option KeyStart) := []

namespace TokenReader

/-- Whether a flow collection is open. -/
def inFlow (reader : TokenReader) : Bool := !reader.outerKeys.isEmpty

/-- The least column at which a member of the innermost block collection's node may stand. -/
def floor (reader : TokenReader) : Nat :=
  match reader.columns with
  | [] => 0
  | column :: _ => column + 1

/-- Appends a token. -/
def emit (reader : TokenReader) (token : Token) : TokenReader :=
  { reader with tokens := token :: reader.tokens }

/-- Inserts a token in front of all but a number of first tokens. -/
def emitAt (reader : TokenReader) (position : Nat) (token : Token) : TokenReader :=
  { reader with tokens := reader.tokens.insertIdx (reader.tokens.length - position) token }

/-- Moves the cursor by a number of characters. -/
def advance (reader : TokenReader) (count : Nat) : TokenReader :=
  { reader with cursor := reader.cursor.advance count }

/-! ## Keys -/

/-- Gives up the position at which a key might have begun. -/
def dropKey (reader : TokenReader) : Except Fault TokenReader :=
  if reader.key?.any (·.required) then .error .missingColon
  else .ok { reader with key? := none }

/-- Remembers the position as one at which a key may begin. -/
def saveKey (reader : TokenReader) : Except Fault TokenReader :=
  if reader.keyAllowed then
    match reader.dropKey with
    | .error fault => .error fault
    | .ok reader =>
      let cursor := reader.cursor
      .ok { reader with
        key? := some
          { required := !reader.inFlow && reader.columns.head? == some cursor.column
            position := reader.tokens.length
            line := cursor.line
            index := cursor.index
            column := cursor.column } }
  else .ok reader

/-- Whether a key that began at a position can no longer end here. -/
def KeyStart.isStale (key : KeyStart) (cursor : Cursor) : Bool :=
  decide (key.line < cursor.line) || decide (key.index + 1024 < cursor.index)

/-- Forgets the positions from which a key can no longer reach. -/
def dropStaleKeys (reader : TokenReader) : Except Fault TokenReader :=
  let stale := fun (key? : Option KeyStart) => key?.any (KeyStart.isStale · reader.cursor)
  if (reader.key? :: reader.outerKeys).any fun key? => stale key? && key?.any (·.required) then
    .error .missingColon
  else
    let keep := fun key? => if stale key? then none else key?
    .ok { reader with key? := keep reader.key?, outerKeys := reader.outerKeys.map keep }

/-! ## Block collections -/

/-- Opens a block collection at a column unless one is open there; its start token goes to a
position among the tokens. -/
def openBlock (reader : TokenReader) (column position : Nat) (start : Token) : TokenReader :=
  if reader.inFlow || decide (column < reader.floor) then reader
  else { reader.emitAt position start with columns := column :: reader.columns }

/-- Closes the block collections of a list that lie right of a column. -/
def closeColumns (floor : Nat) : List Nat → (tokens : List Token) → List Nat × List Token
  | [], tokens => ([], tokens)
  | column :: columns, tokens =>
    if floor ≤ column then closeColumns floor columns (.blockEnd :: tokens)
    else (column :: columns, tokens)

/-- Closes the open block collections at columns from `floor` on. -/
def closeBlocks (reader : TokenReader) (floor : Nat) : TokenReader :=
  if reader.inFlow then reader
  else
    let (columns, tokens) := closeColumns floor reader.columns reader.tokens
    { reader with columns, tokens }

/-! ## Gaps -/

/-- Skips blanks, comments and line breaks up to the next token. A tabulator counts as a blank only
where no block collection can begin; a new line outside of flow collections may begin with a key. -/
def skipGap (inFlow keyAllowed : Bool) (cursor : Cursor) : Bool × Cursor :=
  match _h : cursor.rest with
  | [] => (keyAllowed, cursor)
  | c :: rest =>
    if (c == '\ufeff' && cursor.column == 0) || c == ' ' ||
        (c == '\t' && (inFlow || !keyAllowed)) then
      skipGap inFlow keyAllowed (cursor.after c rest)
    else if c == '#' then
      -- The break behind a comment ends it and counts as a break.
      let further := (cursor.after c rest).skipWhile (fun c => !isBreak c)
      match further.rest with
      | [] => (keyAllowed, further)
      | _ :: afterBreak =>
        if _shorter : afterBreak.length < cursor.rest.length then
          skipGap inFlow (keyAllowed || !inFlow) (further.after '\n' afterBreak)
        else (keyAllowed, further)
    else if isBreak c then skipGap inFlow (keyAllowed || !inFlow) (cursor.after c rest)
    else (keyAllowed, cursor)
termination_by cursor.rest.length
decreasing_by
  · simp [Cursor.rest_after, _h]
  · rw [Cursor.rest_after]
    exact _shorter
  · simp [Cursor.rest_after, _h]

/-! ## Single tokens -/

/-- Reads a directive or a document marker, which end every block collection. -/
def readTopLevel (reader : TokenReader) (content : Except Fault (Token × Cursor)) :
    Except Fault TokenReader :=
  match (reader.closeBlocks 0).dropKey, content with
  | .error fault, _ => .error fault
  | _, .error fault => .error fault
  | .ok reader, .ok (token, cursor) => .ok { reader.emit token with keyAllowed := false, cursor }

/-- Reads the start of a flow collection. -/
def readFlowStart (reader : TokenReader) (token : Token) : Except Fault TokenReader :=
  match reader.saveKey with
  | .error fault => .error fault
  | .ok reader =>
    .ok { (reader.emit token).advance 1 with
      outerKeys := reader.key? :: reader.outerKeys, key? := none, keyAllowed := true }

/-- Reads the end of a flow collection. -/
def readFlowEnd (reader : TokenReader) (token : Token) : Except Fault TokenReader :=
  match reader.dropKey with
  | .error fault => .error fault
  | .ok reader =>
    let reader := { (reader.emit token).advance 1 with keyAllowed := false }
    match reader.outerKeys with
    | [] => .ok reader
    | key? :: outerKeys => .ok { reader with key?, outerKeys }

/-- Reads the comma between members of a flow collection. -/
def readFlowEntry (reader : TokenReader) : Except Fault TokenReader :=
  match reader.dropKey with
  | .error fault => .error fault
  | .ok reader => .ok { (reader.emit .flowEntry).advance 1 with keyAllowed := true }

/-- Opens a block collection at the cursor where that is allowed. -/
def openBlockHere (reader : TokenReader) (start : Token) (refusal : Fault) :
    Except Fault TokenReader :=
  if reader.inFlow then .ok reader
  else if reader.keyAllowed then
    .ok (reader.openBlock reader.cursor.column reader.tokens.length start)
  else .error refusal

/-- Reads the hyphen in front of a member of a block sequence. -/
def readBlockEntry (reader : TokenReader) : Except Fault TokenReader :=
  match reader.openBlockHere .blockSequenceStart .entryNotAllowed with
  | .error fault => .error fault
  | .ok reader =>
    match reader.dropKey with
    | .error fault => .error fault
    | .ok reader => .ok { (reader.emit .blockEntry).advance 1 with keyAllowed := true }

/-- Reads the question mark in front of a key. -/
def readKeyMark (reader : TokenReader) : Except Fault TokenReader :=
  match reader.openBlockHere .blockMappingStart .keyNotAllowed with
  | .error fault => .error fault
  | .ok reader =>
    match reader.dropKey with
    | .error fault => .error fault
    | .ok reader => .ok { (reader.emit .key).advance 1 with keyAllowed := !reader.inFlow }

/-- Reads the colon in front of a value. -/
def readValueMark (reader : TokenReader) : Except Fault TokenReader :=
  match reader.key? with
  | some key =>
    -- The node that was read turns out to be a key: its token, and the start of a new mapping, go
    -- in front of it.
    let reader := (reader.emitAt key.position .key).openBlock key.column key.position
      .blockMappingStart
    .ok { (reader.emit .value).advance 1 with key? := none, keyAllowed := false }
  | none =>
    match reader.openBlockHere .blockMappingStart .valueNotAllowed with
    | .error fault => .error fault
    | .ok reader => .ok { (reader.emit .value).advance 1 with keyAllowed := !reader.inFlow }

/-- Reads a token that may be the key of a mapping; a key may not follow it directly. -/
def readKeyLike (reader : TokenReader) (content : Except Fault (Token × Cursor)) :
    Except Fault TokenReader :=
  match reader.saveKey, content with
  | .error fault, _ => .error fault
  | _, .error fault => .error fault
  | .ok reader, .ok (token, cursor) => .ok { reader.emit token with keyAllowed := false, cursor }

/-- Reads an alias or an anchor. -/
def readNamed (reader : TokenReader) (token : String → Token) : Except Fault TokenReader :=
  reader.readKeyLike (match readAnchorName reader.cursor.next with
    | .error fault => .error fault
    | .ok (name, cursor) => .ok (token name, cursor))

/-- Reads a quoted scalar. -/
def readQuotedToken (reader : TokenReader) (double : Bool) : Except Fault TokenReader :=
  reader.readKeyLike
    (match readQuoted double (reader.cursor.rest.length + 1) [] reader.cursor.next with
    | .error fault => .error fault
    | .ok (text, cursor) => .ok (.scalar (String.ofList text) .quoted, cursor))

/-- Reads a plain scalar; a key may follow it on a new line. -/
def readPlainToken (reader : TokenReader) : Except Fault TokenReader :=
  match reader.saveKey with
  | .error fault => .error fault
  | .ok reader =>
    let cursor := reader.cursor
    -- The reader of plain scalars says whether it went on to a new line, where a key may begin.
    match readPlain reader.floor reader.inFlow (cursor.rest.length + 1) [] {} cursor with
    | .error fault => .error fault
    | .ok plain =>
      .ok { reader.emit (.scalar (String.ofList plain.text) .plain) with
        keyAllowed := plain.broken, cursor := plain.cursor }

/-- Reads a block scalar, which can be no key. -/
def readBlockToken (reader : TokenReader) (folded : Bool) : Except Fault TokenReader :=
  match reader.dropKey with
  | .error fault => .error fault
  | .ok reader =>
    let outer := reader.columns.head?.getD 0
    match readBlock folded reader.floor outer reader.cursor.next with
    | .error fault => .error fault
    | .ok (text, cursor) =>
      let style := if folded then Style.folded else .literal
      .ok { reader.emit (.scalar (String.ofList text) style) with keyAllowed := true, cursor }

/-- Characters with which a plain scalar begins only in front of a character that is no gap, or
never. -/
def isIndicator (c : Char) : Bool :=
  ['-', '?', ':', ',', '[', ']', '\x7b', '\x7d', '#', '&', '*', '!', '|', '>', '\x27', '"', '%',
    '@', '\x60'].contains c

/-- Whether a plain scalar may begin with a character in front of `rest`. -/
def startsPlain (inFlow : Bool) (c : Char) (rest : List Char) : Bool :=
  !(isBlank c || isIndicator c) ||
    (c == '-' && !rest.head?.any isBlank) ||
    (!inFlow && (c == '?' || c == ':') && !isGapAhead rest)

/-- Reads the token that begins with a character in front of `rest`. -/
def readToken (reader : TokenReader) (c : Char) (rest : List Char) : Except Fault TokenReader :=
  let cursor := reader.cursor
  let flow := reader.inFlow
  let gap := isGapAhead rest
  if cursor.column == 0 && c == '%' then reader.readTopLevel (readDirective cursor)
  else if cursor.isMarker '-' then reader.readTopLevel (.ok (.documentStart, cursor.advance 3))
  else if cursor.isMarker '.' then reader.readTopLevel (.ok (.documentEnd, cursor.advance 3))
  else if c == '[' then reader.readFlowStart .flowSequenceStart
  else if c == '\x7b' then reader.readFlowStart .flowMappingStart
  else if c == ']' then reader.readFlowEnd .flowSequenceEnd
  else if c == '\x7d' then reader.readFlowEnd .flowMappingEnd
  else if c == ',' then reader.readFlowEntry
  -- The remaining indicators count only in front of a gap or inside of flow collections.
  else if c == '-' && gap then reader.readBlockEntry
  else if c == '?' && (flow || gap) then reader.readKeyMark
  else if c == ':' && (flow || gap) then reader.readValueMark
  else if c == '*' then reader.readNamed .alias
  else if c == '&' then reader.readNamed .anchor
  else if c == '!' then reader.readKeyLike (readTag flow cursor)
  else if c == '|' && !flow then reader.readBlockToken false
  else if c == '>' && !flow then reader.readBlockToken true
  else if c == '\x27' then reader.readQuotedToken false
  else if c == '"' then reader.readQuotedToken true
  else if startsPlain flow c rest then reader.readPlainToken
  else .error .unexpectedCharacter

/-- Ends reading: closes all block collections. -/
def finish (reader : TokenReader) : Except Fault (List Token) :=
  match (reader.closeBlocks 0).dropKey with
  | .error fault => .error fault
  | .ok reader => .ok reader.tokens.reverse

/-- Reads the tokens from the cursor to the end of the text. -/
def readAll : (budget : Nat) → TokenReader → Except Fault (List Token)
  | 0, _ => .error .exhausted
  | budget + 1, reader =>
    let (keyAllowed, cursor) := skipGap reader.inFlow reader.keyAllowed reader.cursor
    match dropStaleKeys { reader with keyAllowed, cursor } with
    | .error fault => .error fault
    | .ok reader =>
      let reader := reader.closeBlocks (cursor.column + 1)
      match cursor.rest with
      | [] => reader.finish
      | c :: rest =>
        match reader.readToken c rest with
        | .error fault => .error fault
        | .ok reader => readAll budget reader

end TokenReader

/-- The characters of a text without a byte order mark at its start. -/
def withoutMark : List Char → List Char
  | '\ufeff' :: rest => rest
  | text => text

/-- The tokens of a text. -/
def tokensOf (text : String) : Except Fault (List Token) :=
  let chars := withoutMark text.toList
  if chars.all isAllowed then
    let chars := uniformBreaks chars
    TokenReader.readAll (chars.length + 1) { cursor := { rest := chars } }
  else .error .controlCharacter

end BundleBuilder.Yaml
