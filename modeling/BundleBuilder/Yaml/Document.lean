import BundleBuilder.Table.Insertion
import BundleBuilder.Yaml.Node
import BundleBuilder.Yaml.Tokens

/-!
# Documents

A text is read as exactly one document. The grammar is that of block and flow collections over
tokens; the reader looks one token ahead. Its recursion is bounded by a budget that grows with the
number of tokens: between two tokens that are read there are at most three nested calls.

Anchored nodes are numbered by how many different anchor names have been used before them. The
number stands for the node that got it last, wherever the alias stands.
-/

set_option autoImplicit false

namespace BundleBuilder.Yaml

open Table

/-- The state of reading nodes: the tokens that are left, the numbers of the anchor names, the place
of the last anchored node of each number, and the anchored nodes by their places. -/
structure NodeReader where
  tokens : List Token
  handles : List (String × String)
  numbers : InsertionTable Nat := .empty
  places : List (Nat × Nat) := []
  nodes : List (Nat × Node) := []

/-- The result of reading nodes. -/
abbrev NodeReading (α : Type) := Except Fault (α × NodeReader)

namespace NodeReader

/-- The reader after the next token. -/
def skip (reader : NodeReader) : NodeReader := { reader with tokens := reader.tokens.tail }

/-- Gives an anchor name its number, and the node after it its place. -/
def begin (reader : NodeReader) : Option String → Option Nat × NodeReader
  | none => (none, reader)
  | some name =>
    let number := reader.numbers.size
    let place := reader.places.length
    (some place,
      { reader with
        numbers := reader.numbers.insert name number
        places := (number, place) :: reader.places })

/-- Records an anchored node at its place. -/
def record (reader : NodeReader) (place? : Option Nat) (node : Node) : NodeReader :=
  match place? with
  | none => reader
  | some place => { reader with nodes := (place, node) :: reader.nodes }

/-- The anchored nodes by their numbers; the node that got a number last comes first. -/
def anchored (reader : NodeReader) : Anchored :=
  reader.places.filterMap fun (number, place) =>
    (reader.nodes.lookup place).map fun node => (number, node)

end NodeReader

/-- The anchor and the tag in front of a node. -/
structure Properties where
  anchor? : Option String := none
  tag? : Option (String × String) := none

/-- Reads an anchor and a tag, in any order and each at most once. -/
def readProperties : List Token → Properties × List Token
  | .anchor name :: .tag handle suffix :: rest => (⟨some name, some (handle, suffix)⟩, rest)
  | .tag handle suffix :: .anchor name :: rest => (⟨some name, some (handle, suffix)⟩, rest)
  | .anchor name :: rest => (⟨some name, none⟩, rest)
  | .tag handle suffix :: rest => (⟨none, some (handle, suffix)⟩, rest)
  | rest => ({}, rest)

/-- The full form of a tag: its handle is replaced by what a directive defines for it. -/
def resolveTag (handles : List (String × String)) :
    Option (String × String) → Except Fault (Option String)
  | none => .ok none
  | some (handle, suffix) =>
    if handle = "" then .ok (some suffix)
    else match handles.lookup handle with
      | some start => .ok (some (start ++ suffix))
      | none => .error (.undefinedHandle handle)

/-- Whether a token follows that ends an empty member of a block collection. -/
def endsBlockMember (tokens : List Token) (ends : List Token) : Bool :=
  tokens.head?.any (ends.contains ·)

mutual

/-- Reads a node. Block collections count only where they are allowed, and so does a sequence whose
hyphens stand at the column of the enclosing mapping. -/
def readNode : (budget : Nat) → (block indentless : Bool) → NodeReader → NodeReading Node
  | 0, _, _, _ => .error .exhausted
  | budget + 1, block, indentless, reader =>
    match reader.tokens with
    | .alias name :: _ =>
      match reader.numbers.find? name with
      | some number => .ok (.reference number, reader.skip)
      | none => .error (.unknownAnchor name)
    | tokens =>
      let (properties, tokens) := readProperties tokens
      match resolveTag reader.handles properties.tag? with
      | .error fault => .error fault
      | .ok tag? =>
        let (place?, reader) := { reader with tokens }.begin properties.anchor?
        let bare := properties.anchor?.isNone && tag?.isNone
        match readContent budget block indentless bare tag? reader with
        | .error fault => .error fault
        | .ok (node, reader) => .ok (node, reader.record place? node)

/-- Reads what follows the properties of a node; without properties there must be something. -/
def readContent :
    (budget : Nat) → (block indentless bare : Bool) → Option String → NodeReader → NodeReading Node
  | 0, _, _, _, _, _ => .error .exhausted
  | budget + 1, block, indentless, bare, tag?, reader =>
    match reader.tokens with
    | .scalar text style :: _ =>
      .ok (.scalar text style (if tag? = some "!" then none else tag?), reader.skip)
    | .flowSequenceStart :: _ =>
      match readFlowItems budget true reader.skip with
      | .error fault => .error fault
      | .ok (items, reader) => .ok (.sequence tag? items, reader)
    | .flowMappingStart :: _ =>
      match readFlowEntries budget true reader.skip with
      | .error fault => .error fault
      | .ok (entries, reader) => .ok (.mapping tag? entries, reader)
    -- A hyphen that opened no block sequence: the sequence of a key at the same column.
    | .blockEntry :: _ =>
      if indentless then
        match readIndentlessItems budget reader with
        | .error fault => .error fault
        | .ok (items, reader) => .ok (.sequence tag? items, reader)
      else if bare then .error .missingContent
      else .ok (.scalar "" .plain tag?, reader)
    | .blockSequenceStart :: _ =>
      if block then
        match readBlockItems budget reader.skip with
        | .error fault => .error fault
        | .ok (items, reader) => .ok (.sequence tag? items, reader)
      else if bare then .error .missingContent
      else .ok (.scalar "" .plain tag?, reader)
    | .blockMappingStart :: _ =>
      if block then
        match readBlockEntries budget reader.skip with
        | .error fault => .error fault
        | .ok (entries, reader) => .ok (.mapping tag? entries, reader)
      else if bare then .error .missingContent
      else .ok (.scalar "" .plain tag?, reader)
    | _ =>
      if bare then .error .missingContent
      else .ok (.scalar "" .plain tag?, reader)

/-- Reads a node of a block collection, or nothing in front of one of the given tokens. -/
def readBlockNode :
    (budget : Nat) → (indentless : Bool) → (ends : List Token) → NodeReader → NodeReading Node
  | 0, _, _, _ => .error .exhausted
  | budget + 1, indentless, ends, reader =>
    if endsBlockMember reader.tokens ends then .ok (.nothing, reader)
    else readNode budget true indentless reader

/-- Reads the items of a block sequence up to its end. -/
def readBlockItems : (budget : Nat) → NodeReader → NodeReading (List Node)
  | 0, _ => .error .exhausted
  | budget + 1, reader =>
    match reader.tokens with
    | .blockEntry :: _ =>
      match readBlockNode budget false [.blockEntry, .blockEnd] reader.skip with
      | .error fault => .error fault
      | .ok (item, reader) =>
        match readBlockItems budget reader with
        | .error fault => .error fault
        | .ok (items, reader) => .ok (item :: items, reader)
    | .blockEnd :: _ => .ok ([], reader.skip)
    | _ => .error .missingIndicator

/-- Reads the items of a sequence at the column of its mapping. -/
def readIndentlessItems : (budget : Nat) → NodeReader → NodeReading (List Node)
  | 0, _ => .error .exhausted
  | budget + 1, reader =>
    match reader.tokens with
    | .blockEntry :: _ =>
      match readBlockNode budget false [.blockEntry, .key, .value, .blockEnd] reader.skip with
      | .error fault => .error fault
      | .ok (item, reader) =>
        match readIndentlessItems budget reader with
        | .error fault => .error fault
        | .ok (items, reader) => .ok (item :: items, reader)
    | _ => .ok ([], reader)

/-- Reads the entries of a block mapping up to its end. -/
def readBlockEntries : (budget : Nat) → NodeReader → NodeReading (List (Node × Node))
  | 0, _ => .error .exhausted
  | budget + 1, reader =>
    match reader.tokens with
    | .key :: _ =>
      match readBlockNode budget true [.key, .value, .blockEnd] reader.skip with
      | .error fault => .error fault
      | .ok (key, reader) =>
        match readBlockValue budget reader with
        | .error fault => .error fault
        | .ok (value, reader) =>
          match readBlockEntries budget reader with
          | .error fault => .error fault
          | .ok (entries, reader) => .ok ((key, value) :: entries, reader)
    | .blockEnd :: _ => .ok ([], reader.skip)
    | _ => .error .missingIndicator

/-- Reads the value of an entry of a block mapping, if there is one. -/
def readBlockValue : (budget : Nat) → NodeReader → NodeReading Node
  | 0, _ => .error .exhausted
  | budget + 1, reader =>
    match reader.tokens with
    | .value :: _ => readBlockNode budget true [.key, .value, .blockEnd] reader.skip
    | _ => .ok (.nothing, reader)

/-- Reads the items of a flow sequence up to its end. -/
def readFlowItems : (budget : Nat) → (first : Bool) → NodeReader → NodeReading (List Node)
  | 0, _, _ => .error .exhausted
  | budget + 1, first, reader =>
    match reader.tokens with
    | .flowSequenceEnd :: _ => .ok ([], reader.skip)
    | .flowEntry :: .flowSequenceEnd :: _ =>
      if first then .error .missingContent else .ok ([], reader.skip.skip)
    | tokens =>
      if !first && tokens.head? != some .flowEntry then .error .missingIndicator
      else
        match readFlowItem budget (if first then reader else reader.skip) with
        | .error fault => .error fault
        | .ok (item, reader) =>
          match readFlowItems budget false reader with
          | .error fault => .error fault
          | .ok (items, reader) => .ok (item :: items, reader)

/-- Reads an item of a flow sequence; a key with a value stands for a mapping with one entry. -/
def readFlowItem : (budget : Nat) → NodeReader → NodeReading Node
  | 0, _ => .error .exhausted
  | budget + 1, reader =>
    match reader.tokens with
    | .key :: rest =>
      let reader := reader.skip
      let keyReading :=
        -- The token behind an empty key of a sequence item is passed over together with the key.
        if endsBlockMember rest [.value, .flowEntry, .flowSequenceEnd] then
          .ok (.nothing, reader.skip)
        else readNode budget false false reader
      match keyReading with
      | .error fault => .error fault
      | .ok (key, reader) =>
        match readFlowValue budget [.flowEntry, .flowSequenceEnd] reader with
        | .error fault => .error fault
        | .ok (value, reader) => .ok (.mapping none [(key, value)], reader)
    | _ => readNode budget false false reader

/-- Reads the value of an entry of a flow collection, if there is one. -/
def readFlowValue : (budget : Nat) → (ends : List Token) → NodeReader → NodeReading Node
  | 0, _, _ => .error .exhausted
  | budget + 1, ends, reader =>
    match reader.tokens with
    | .value :: rest =>
      if endsBlockMember rest ends then .ok (.nothing, reader.skip)
      else readNode budget false false reader.skip
    | _ => .ok (.nothing, reader)

/-- Reads the entries of a flow mapping up to its end. -/
def readFlowEntries :
    (budget : Nat) → (first : Bool) → NodeReader → NodeReading (List (Node × Node))
  | 0, _, _ => .error .exhausted
  | budget + 1, first, reader =>
    match reader.tokens with
    | .flowMappingEnd :: _ => .ok ([], reader.skip)
    | .flowEntry :: .flowMappingEnd :: _ =>
      if first then .error .missingContent else .ok ([], reader.skip.skip)
    | tokens =>
      if !first && tokens.head? != some .flowEntry then .error .missingIndicator
      else
        match readFlowEntry budget (if first then reader else reader.skip) with
        | .error fault => .error fault
        | .ok (entry, reader) =>
          match readFlowEntries budget false reader with
          | .error fault => .error fault
          | .ok (entries, reader) => .ok (entry :: entries, reader)

/-- Reads an entry of a flow mapping; a node without a key mark is a key without a value. -/
def readFlowEntry : (budget : Nat) → NodeReader → NodeReading (Node × Node)
  | 0, _ => .error .exhausted
  | budget + 1, reader =>
    match reader.tokens with
    | .key :: rest =>
      let reader := reader.skip
      let keyReading :=
        if endsBlockMember rest [.value, .flowEntry, .flowMappingEnd] then .ok (.nothing, reader)
        else readNode budget false false reader
      match keyReading with
      | .error fault => .error fault
      | .ok (key, reader) =>
        match readFlowValue budget [.flowEntry, .flowMappingEnd] reader with
        | .error fault => .error fault
        | .ok (value, reader) => .ok ((key, value), reader)
    | _ =>
      match readNode budget false false reader with
      | .error fault => .error fault
      | .ok (key, reader) => .ok ((key, .nothing), reader)

end

/-! ## Whole documents -/

/-- The handles that are defined in every document. -/
def standardHandles : List (String × String) := [("!", "!"), ("!!", "tag:yaml.org,2002:")]

/-- Reads the directives in front of a document: whether a version was given, and the handles. -/
def readDirectives :
    (hasVersion : Bool) → (handles : List (String × String)) → List Token →
      Except Fault (List (String × String) × List Token)
  | hasVersion, handles, .versionDirective major minor :: rest =>
    if hasVersion || major != 1 || !(minor == 1 || minor == 2) then .error .badDirective
    else readDirectives true handles rest
  | hasVersion, handles, .tagDirective handle start :: rest =>
    if (handles.lookup handle).isSome then .error .badDirective
    else readDirectives hasVersion (handles ++ [(handle, start)]) rest
  | _, handles, rest => .ok (handles, rest)

/-- Whether a token belongs to the markers around documents. -/
def isOutsideDocument : Token → Bool
  | .versionDirective .. | .tagDirective .. | .documentStart | .documentEnd => true
  | _ => false

/-- Reads the content of a document and makes sure that no further document follows. -/
def readContentToEnd (handles : List (String × String)) (explicit : Bool) (tokens : List Token) :
    Except Fault Node :=
  let reader : NodeReader := { tokens, handles := handles ++ standardHandles }
  let reading :=
    if explicit && (tokens.head?.all isOutsideDocument) then .ok (.nothing, reader)
    else readNode (4 * tokens.length + 4) true false reader
  match reading with
  | .error fault => .error fault
  | .ok (node, reader) =>
    if reader.tokens.all (· == .documentEnd) then
      -- A scalar refers to nothing; everything else is followed down to the limit.
      .ok (match node with
        | .scalar text style tag? => .scalar text style tag?
        | node => node.followed reader.anchored Node.depthLimit)
    else .error .furtherDocument

/-- Reads tokens as one document. Without any token the document is empty. -/
def documentOf : List Token → Except Fault Node
  | [] => .ok .nothing
  | .documentStart :: tokens => readContentToEnd [] true tokens
  | .versionDirective major minor :: tokens =>
    match readDirectives false [] (.versionDirective major minor :: tokens) with
    | .error fault => .error fault
    | .ok (handles, .documentStart :: tokens) => readContentToEnd handles true tokens
    | .ok _ => .error .missingDocumentStart
  | .tagDirective handle start :: tokens =>
    match readDirectives false [] (.tagDirective handle start :: tokens) with
    | .error fault => .error fault
    | .ok (handles, .documentStart :: tokens) => readContentToEnd handles true tokens
    | .ok _ => .error .missingDocumentStart
  | tokens => readContentToEnd [] false tokens

/-- The document of a text. -/
def read (text : String) : Except Fault Node :=
  match tokensOf text with
  | .error fault => .error fault
  | .ok tokens => documentOf tokens

end BundleBuilder.Yaml
