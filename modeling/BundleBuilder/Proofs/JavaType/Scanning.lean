import BundleBuilder.JavaType.Lexer

/-!
# What the tokens of a text are

A text splits into tokens by three rules: white space separates, each of seven characters is a token
of its own, and a word is an identifier that is as long as possible. The rules leave no choice, and
the lexemes of a text are its tokens whenever it has any (`tokenized_iff`): a lexeme for some other
character is the only way in which a text fails to split.
-/

set_option autoImplicit false

namespace BundleBuilder.JavaType

/-- The characters that are tokens by themselves. -/
def punctuation : List Char := ['.', '<', '>', ',', '?', '[', ']']

/-- A token of the language: any word, and the marks of the seven characters. -/
def Token.IsProper : Token → Prop
  | .word _ => True
  | .mark symbol => symbol ∈ punctuation

/-- Whether a word is one identifier. -/
def isIdentifier (word : String) : Bool :=
  match word.toList with
  | [] => false
  | start :: more => Text.isIdentifierStart start && more.all Text.isIdentifierPart

/-- The words of a token are identifiers. -/
def Token.IsLexical : Token → Prop
  | .word name => isIdentifier name = true
  | .mark _ => True

/-- The words of a token have no dots. -/
def Token.IsDotless : Token → Prop
  | .word name => '.' ∉ name.toList
  | .mark _ => True

/-- A text does not go on with a character of an identifier. -/
def EndsWord (rest : List Char) : Prop :=
  ∀ c ∈ rest.head?, Text.isIdentifierPart c = false

/-- A text splits into tokens. -/
inductive Tokenized : List Char → List Token → Prop where
  | nil : Tokenized [] []
  | space {c : Char} {rest : List Char} {tokens : List Token} :
      Text.isWhiteSpace c = true → Tokenized rest tokens → Tokenized (c :: rest) tokens
  | mark {c : Char} {rest : List Char} {tokens : List Token} :
      c ∈ punctuation → Tokenized rest tokens → Tokenized (c :: rest) (.mark c :: tokens)
  | word {start : Char} {more rest : List Char} {tokens : List Token} :
      Text.isIdentifierStart start = true → (∀ c ∈ more, Text.isIdentifierPart c = true) →
      EndsWord rest → Tokenized rest tokens →
      Tokenized (start :: (more ++ rest)) (.word (String.ofList (start :: more)) :: tokens)

/-! ## The rules exclude each other -/

/-- The code points in a list of ranges, one by one. -/
def codePoints (ranges : Text.CodePointRanges) : List Nat :=
  ranges.flatMap fun range => List.range' range.1 (range.2 + 1 - range.1)

theorem mem_codePoints {ranges : Text.CodePointRanges} {codePoint : Nat}
    (h : ranges.contains codePoint = true) : codePoint ∈ codePoints ranges := by
  obtain ⟨range, hrange, hbounds⟩ := List.any_eq_true.1 h
  rw [Bool.and_eq_true, decide_eq_true_eq, decide_eq_true_eq] at hbounds
  refine List.mem_flatMap.2 ⟨range, hrange, ?_⟩
  rw [List.mem_range'_1]
  omega

/-- White space of ASCII and beyond, code point by code point. -/
theorem toNat_of_isWhiteSpace {c : Char} (h : Text.isWhiteSpace c = true) :
    c.toNat ∈ codePoints ((9, 13) :: (32, 32) :: Text.whiteSpaceRanges) := by
  apply mem_codePoints
  rw [Text.isWhiteSpace] at h
  rw [Text.CodePointRanges.contains]
  rw [List.any_cons, List.any_cons, Bool.or_eq_true, Bool.or_eq_true]
  split at h
  · rw [Bool.or_eq_true] at h
    rcases h with hcontrol | hblank
    · exact .inl hcontrol
    · rw [beq_iff_eq] at hblank
      subst hblank
      exact .inr (.inl rfl)
  · exact .inr (.inr h)

/-- White space never begins a word. -/
theorem isIdentifierStart_of_isWhiteSpace {c : Char} (h : Text.isWhiteSpace c = true) :
    Text.isIdentifierStart c = false := by
  have hall : ∀ codePoint ∈ codePoints ((9, 13) :: (32, 32) :: Text.whiteSpaceRanges),
      Text.isIdentifierStart (Char.ofNat codePoint) = false := by
    decide +kernel
  have hc := hall c.toNat (toNat_of_isWhiteSpace h)
  rwa [Char.ofNat_toNat] at hc

theorem not_space_of_mem_punctuation {c : Char} (h : c ∈ punctuation) :
    Text.isWhiteSpace c = false ∧ Text.isIdentifierStart c = false := by
  have hall : punctuation.all (fun c => !Text.isWhiteSpace c && !Text.isIdentifierStart c)
      = true := by decide +kernel
  have hc := List.all_eq_true.1 hall c h
  rw [Bool.and_eq_true, Bool.not_eq_true', Bool.not_eq_true'] at hc
  exact hc

/-! ## Lexemes -/

theorem lexFrom_space {c : Char} {rest : List Char} (offset : Nat)
    (h : Text.isWhiteSpace c = true) :
    lexFrom offset (c :: rest) = lexFrom (offset + c.utf8Size) rest := by
  rw [lexFrom, if_pos h]

theorem lexFrom_mark {c : Char} {rest : List Char} (offset : Nat)
    (hspace : Text.isWhiteSpace c = false) (hstart : Text.isIdentifierStart c = false) :
    lexFrom offset (c :: rest) = ⟨.mark c, offset⟩ :: lexFrom (offset + c.utf8Size) rest := by
  rw [lexFrom, hspace, hstart]
  rfl

theorem lexFrom_word {start : Char} {rest : List Char} (offset : Nat)
    (hstart : Text.isIdentifierStart start = true) :
    lexFrom offset (start :: rest)
      = ⟨.word (String.ofList (start :: rest.takeWhile Text.isIdentifierPart)), offset⟩
        :: lexFrom (offset + utf8Length (start :: rest.takeWhile Text.isIdentifierPart))
          (rest.dropWhile Text.isIdentifierPart) := by
  have hspace : Text.isWhiteSpace start = false := by
    cases hs : Text.isWhiteSpace start with
    | false => rfl
    | true =>
      rw [isIdentifierStart_of_isWhiteSpace hs] at hstart
      cases hstart
  rw [lexFrom, hspace, hstart]
  rfl

/-- A word ends where the longest match ends. -/
theorem takeWhile_append_of_endsWord {more rest : List Char}
    (hmore : ∀ c ∈ more, Text.isIdentifierPart c = true) (hrest : EndsWord rest) :
    (more ++ rest).takeWhile Text.isIdentifierPart = more ∧
      (more ++ rest).dropWhile Text.isIdentifierPart = rest := by
  have hhead : rest.takeWhile Text.isIdentifierPart = [] ∧
      rest.dropWhile Text.isIdentifierPart = rest := by
    cases rest with
    | nil => exact ⟨rfl, rfl⟩
    | cons c rest =>
      have hc := hrest c rfl
      rw [List.takeWhile_cons, List.dropWhile_cons, hc]
      exact ⟨rfl, rfl⟩
  constructor
  · rw [List.takeWhile_append_of_pos hmore, hhead.1, List.append_nil]
  · rw [List.dropWhile_append_of_pos hmore, hhead.2]

theorem endsWord_dropWhile (rest : List Char) :
    EndsWord (rest.dropWhile Text.isIdentifierPart) := by
  intro c hc
  have hnot := List.head?_dropWhile_not Text.isIdentifierPart rest
  rw [Option.mem_def] at hc
  rw [hc] at hnot
  simpa using hnot

/-- The lexemes of a text that splits into tokens are these tokens. -/
theorem Tokenized.lexFrom_eq {text : List Char} {tokens : List Token} (h : Tokenized text tokens) :
    ∀ offset, (lexFrom offset text).map Lexeme.token = tokens := by
  induction h with
  | nil =>
    intro offset
    rw [lexFrom]
    rfl
  | space hspace _ ih =>
    intro offset
    rw [lexFrom_space offset hspace]
    exact ih _
  | mark hmark _ ih =>
    intro offset
    obtain ⟨hspace, hstart⟩ := not_space_of_mem_punctuation hmark
    rw [lexFrom_mark offset hspace hstart, List.map_cons, ih]
  | word hstart hmore hrest _ ih =>
    intro offset
    obtain ⟨htake, hdrop⟩ := takeWhile_append_of_endsWord hmore hrest
    rw [lexFrom_word offset hstart, htake, hdrop, List.map_cons, ih]

theorem Tokenized.isProper {text : List Char} {tokens : List Token} (h : Tokenized text tokens) :
    ∀ token ∈ tokens, token.IsProper := by
  induction h with
  | nil =>
    intro token hmem
    cases hmem
  | space _ _ ih => exact ih
  | mark hmark _ ih =>
    intro token hmem
    rcases List.mem_cons.1 hmem with rfl | hmem
    · exact hmark
    · exact ih token hmem
  | word _ _ _ _ ih =>
    intro token hmem
    rcases List.mem_cons.1 hmem with rfl | hmem
    · trivial
    · exact ih token hmem

/-- The words of a text are identifiers. -/
theorem Tokenized.isLexical {text : List Char} {tokens : List Token} (h : Tokenized text tokens) :
    ∀ token ∈ tokens, token.IsLexical := by
  induction h with
  | nil =>
    intro token hmem
    cases hmem
  | space _ _ ih => exact ih
  | mark _ _ ih =>
    intro token hmem
    rcases List.mem_cons.1 hmem with rfl | hmem
    · trivial
    · exact ih token hmem
  | @word start more rest tokens hstart hmore _ _ ih =>
    intro token hmem
    rcases List.mem_cons.1 hmem with rfl | hmem
    · show isIdentifier (String.ofList (start :: more)) = true
      rw [isIdentifier, String.toList_ofList]
      dsimp only
      rw [hstart, List.all_eq_true.2 hmore]
      rfl
    · exact ih token hmem

/-- An identifier has no dots. -/
theorem dotless_of_isIdentifier {word : String} (h : isIdentifier word = true) :
    '.' ∉ word.toList := by
  have hdot : Text.isIdentifierPart '.' = false := by decide
  rw [isIdentifier] at h
  intro hin
  cases hchars : word.toList with
  | nil =>
    rw [hchars] at hin
    cases hin
  | cons start more =>
    rw [hchars] at h hin
    obtain ⟨hstart, hmore⟩ := Bool.and_eq_true_iff.1 h
    rcases List.mem_cons.1 hin with rfl | hin
    · rw [Text.isIdentifierPart_of_start hstart] at hdot
      cases hdot
    · rw [List.all_eq_true.1 hmore '.' hin] at hdot
      cases hdot

theorem Token.IsLexical.isDotless {token : Token} (h : token.IsLexical) : token.IsDotless := by
  cases token with
  | word name => exact dotless_of_isIdentifier h
  | mark symbol => trivial

theorem Tokenized.isDotless {text : List Char} {tokens : List Token} (h : Tokenized text tokens) :
    ∀ token ∈ tokens, token.IsDotless :=
  fun token hmem => (h.isLexical token hmem).isDotless

/-- A text whose lexemes are all proper splits into them. -/
theorem tokenized_lexFrom (offset : Nat) (text : List Char) :
    (∀ token ∈ (lexFrom offset text).map Lexeme.token, token.IsProper) →
      Tokenized text ((lexFrom offset text).map Lexeme.token) := by
  induction offset, text using lexFrom.induct with
  | case1 offset =>
    intro _
    rw [lexFrom]
    exact .nil
  | case2 offset c rest hspace ih =>
    rw [lexFrom_space offset hspace]
    exact fun hproper => .space hspace (ih hproper)
  | case3 offset c rest hspace hstart tail ih =>
    rw [lexFrom_word offset hstart, List.map_cons]
    intro hproper
    obtain ⟨-, hrest⟩ := List.forall_mem_cons.1 hproper
    have hmore : ∀ c ∈ rest.takeWhile Text.isIdentifierPart, Text.isIdentifierPart c = true :=
      List.all_eq_true.1 List.all_takeWhile
    have hword := Tokenized.word hstart hmore (endsWord_dropWhile rest) (ih hrest)
    rw [List.takeWhile_append_dropWhile] at hword
    exact hword
  | case4 offset c rest hspace hstart ih =>
    rw [lexFrom_mark offset (by simpa using hspace) (by simpa using hstart), List.map_cons]
    intro hproper
    obtain ⟨hmark, hrest⟩ := List.forall_mem_cons.1 hproper
    exact .mark hmark (ih hrest)

/-- The tokens of a text are its lexemes, as far as all of them are proper. -/
theorem tokenized_iff {text : String} {tokens : List Token} :
    Tokenized text.toList tokens ↔
      (lex text).map Lexeme.token = tokens ∧ ∀ token ∈ tokens, token.IsProper := by
  rw [lex]
  constructor
  · intro h
    exact ⟨h.lexFrom_eq 0, h.isProper⟩
  · rintro ⟨rfl, hproper⟩
    exact tokenized_lexFrom 0 text.toList hproper

end BundleBuilder.JavaType
