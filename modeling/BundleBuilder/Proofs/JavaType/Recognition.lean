import BundleBuilder.JavaType.Parser
import BundleBuilder.Proofs.JavaType.Grammar

/-!
# Reading types accepts the grammar

The reader accepts exactly the texts that have a derivation, and gives them the type that the
derivation denotes (`parse_recognizes`). Soundness is by induction on the budget of the reader, one
case for each of its functions. Completeness is by induction on the tree: a reader whose budget is
at least the number of tokens reads the lexemes of the tree and stops at what follows, provided that
what follows could not belong to the tree as well.
-/

set_option autoImplicit false

namespace BundleBuilder.JavaType

/-! ## What a successful reading has done -/

section Inversion

variable {budget : Nat} {voidAllowed : Bool} {lexemes rest : List Lexeme}

/-- A type is a keyword, `void` where it is allowed, a name with arguments, or a name. -/
theorem readType_cases {type : JavaType}
    (h : readType (budget + 1) voidAllowed lexemes = .ok (type, rest)) :
    ∃ name tail, readName lexemes = .ok (name, tail) ∧
      ((∃ kind, Primitive.ofKeyword? name = some kind ∧
          readDimensions (.primitive kind) tail = .ok (type, rest)) ∨
        (name = "void" ∧ voidAllowed = true ∧ readDimensions .void tail = .ok (type, rest)) ∨
        (Primitive.ofKeyword? name = none ∧ name ≠ "void" ∧
          ((∃ offset inner args after, tail = ⟨.mark '<', offset⟩ :: inner ∧
              readArguments budget inner = .ok (args, after) ∧
              readDimensions (.declared name args) after = .ok (type, rest)) ∨
            ((∀ offset inner, tail = ⟨.mark '<', offset⟩ :: inner → False) ∧
              readDimensions (.declared name []) tail = .ok (type, rest))))) := by
  rw [readType] at h
  split at h
  · cases h
  · next name tail hname =>
    refine ⟨name, tail, hname, ?_⟩
    split at h
    · next kind hkind => exact .inl ⟨kind, hkind, h⟩
    · next hkind =>
      split at h
      · next hvoid =>
        split at h
        · next hallowed => exact .inr (.inl ⟨hvoid, hallowed, h⟩)
        · cases h
      · next hvoid =>
        refine .inr (.inr ⟨hkind, hvoid, ?_⟩)
        split at h
        · next offset inner =>
          split at h
          · cases h
          · next args after hargs => exact .inl ⟨offset, inner, args, after, rfl, hargs, h⟩
        · next hplain => exact .inr ⟨hplain, h⟩

/-- Type arguments begin with an argument, which a comma or the closing bracket follows. -/
theorem readArguments_cases {types : List JavaType}
    (h : readArguments (budget + 1) lexemes = .ok (types, rest)) :
    (∃ arg offset inner args, readArgument budget lexemes = .ok (arg, ⟨.mark ',', offset⟩ :: inner) ∧
      readArguments budget inner = .ok (args, rest) ∧ types = arg :: args) ∨
    (∃ arg offset, readArgument budget lexemes = .ok (arg, ⟨.mark '>', offset⟩ :: rest) ∧
      types = [arg]) := by
  rw [readArguments] at h
  split at h
  · cases h
  · next arg offset inner harg =>
    split at h
    · cases h
    · next args after hargs =>
      obtain ⟨rfl, rfl⟩ := Prod.mk.inj (Except.ok.inj h)
      exact .inl ⟨arg, offset, inner, args, harg, hargs, rfl⟩
  · next arg offset inner harg =>
    obtain ⟨rfl, rfl⟩ := Prod.mk.inj (Except.ok.inj h)
    exact .inr ⟨arg, offset, harg, rfl⟩
  · cases h

theorem readArgument_plain
    (hplain : ∀ offset inner, lexemes = ⟨.mark '?', offset⟩ :: inner → False) :
    readArgument (budget + 1) lexemes =
      match readType budget false lexemes with
      | .error fault => .error fault
      | .ok (arg, rest) =>
        if arg.isPrimitive then .error .primitiveArgument else .ok (arg, rest) := by
  rw [readArgument.eq_def]
  split
  · next heq => cases heq
  · exact (hplain _ _ rfl).elim
  · next heq _ =>
    cases heq
    rfl

/-- A type argument is one of the three wildcards or a type that is not primitive. -/
theorem readArgument_cases {type : JavaType}
    (h : readArgument (budget + 1) lexemes = .ok (type, rest)) :
    (∃ offset, lexemes = ⟨.mark '?', offset⟩ :: rest ∧ type = .wildcard) ∨
    (∃ offset wordOffset inner bound,
      lexemes = ⟨.mark '?', offset⟩ :: ⟨.word "extends", wordOffset⟩ :: inner ∧
      readType budget false inner = .ok (bound, rest) ∧ type = .wildcardExtends bound) ∨
    (∃ offset wordOffset inner bound,
      lexemes = ⟨.mark '?', offset⟩ :: ⟨.word "super", wordOffset⟩ :: inner ∧
      readType budget false inner = .ok (bound, rest) ∧ type = .wildcardSuper bound) ∨
    (readType budget false lexemes = .ok (type, rest) ∧ type.isPrimitive = false) := by
  by_cases hmark : ∃ offset inner, lexemes = ⟨.mark '?', offset⟩ :: inner
  · obtain ⟨offset, inner, rfl⟩ := hmark
    simp only [readArgument.eq_def] at h
    split at h
    · obtain ⟨rfl, rfl⟩ := Prod.mk.inj (Except.ok.inj h)
      exact .inl ⟨offset, rfl, rfl⟩
    · obtain ⟨rfl, rfl⟩ := Prod.mk.inj (Except.ok.inj h)
      exact .inl ⟨offset, rfl, rfl⟩
    · next word wordOffset inner =>
      split at h
      · next hword =>
        subst hword
        split at h
        · cases h
        · next bound after hbound =>
          obtain ⟨rfl, rfl⟩ := Prod.mk.inj (Except.ok.inj h)
          exact .inr (.inl ⟨offset, wordOffset, inner, bound, rfl, hbound, rfl⟩)
      · split at h
        · next hword =>
          subst hword
          split at h
          · cases h
          · next bound after hbound =>
            obtain ⟨rfl, rfl⟩ := Prod.mk.inj (Except.ok.inj h)
            exact .inr (.inr (.inl ⟨offset, wordOffset, inner, bound, rfl, hbound, rfl⟩))
        · cases h
    · cases h
  · have hplain : ∀ offset inner, lexemes = ⟨.mark '?', offset⟩ :: inner → False := by
      intro offset inner heq
      exact hmark ⟨offset, inner, heq⟩
    rw [readArgument_plain hplain] at h
    split at h
    · cases h
    · next bound after hbound =>
      split at h
      · cases h
      · next hprimitive =>
        obtain ⟨rfl, rfl⟩ := Prod.mk.inj (Except.ok.inj h)
        exact .inr (.inr (.inr ⟨hbound, by simpa using hprimitive⟩))

end Inversion

/-! ## Names and keywords -/

theorem keyword_of_ofKeyword? {word : String} {kind : Primitive}
    (h : Primitive.ofKeyword? word = some kind) : word = kind.keyword := by
  have hfound := List.find?_some h
  exact (beq_iff_eq.1 hfound).symm

theorem keyword_dotless (kind : Primitive) : '.' ∉ kind.keyword.toList := by
  cases kind <;> decide

/-- A name whose text has no dot is a single word. -/
theorem NameTree.eq_single {tree : NameTree} (h : '.' ∉ tree.text.toList) :
    tree = .single tree.text := by
  cases tree with
  | single word => rfl
  | qualified word rest =>
    have hdot : '.' ∈ (NameTree.qualified word rest).text.toList := by
      simp [NameTree.text]
    exact absurd hdot h

theorem NameTree.isProper_of_text {tree : NameTree}
    (hkeyword : Primitive.ofKeyword? tree.text = none) (hvoid : tree.text ≠ "void") :
    tree.IsProper := by
  cases tree with
  | single word => exact ⟨hkeyword, hvoid⟩
  | qualified word rest => trivial

/-- Exactly the types of bare primitives are primitive. -/
theorem TypeTree.isPrimitive_type {tree : TypeTree} :
    tree.type.isPrimitive = true ↔ tree.IsBarePrimitive := by
  obtain ⟨base, dimensions⟩ := tree
  rw [TypeTree.type]
  cases dimensions with
  | zero => cases base <;> simp [nest, BaseTree.type, isPrimitive, TypeTree.IsBarePrimitive]
  | succ dimensions =>
    rw [nest_succ]
    simp [isPrimitive, TypeTree.IsBarePrimitive]

/-! ## Soundness -/

theorem readName_sound {lexemes : List Lexeme} :
    ∀ {rest : List Lexeme} {name : String}, readName lexemes = .ok (name, rest) →
      ∃ tree : NameTree, tree.text = name ∧
        lexemes.map Lexeme.token = tree.tokens ++ rest.map Lexeme.token := by
  induction lexemes using readName.induct with
  | case1 word offset dotOffset tail more after hmore ih =>
    intro rest name h
    rw [readName, hmore] at h
    obtain ⟨rfl, rfl⟩ := Prod.mk.inj (Except.ok.inj h)
    obtain ⟨tree, htext, htokens⟩ := ih hmore
    refine ⟨.qualified word tree, ?_, ?_⟩
    · rw [NameTree.text, htext]
    · rw [List.map_cons, List.map_cons, htokens]
      rfl
  | case2 word offset dotOffset tail fault hfault ih =>
    intro rest name h
    rw [readName, hfault] at h
    cases h
  | case3 word offset tail hnodot =>
    intro rest name h
    rw [readName] at h
    · obtain ⟨rfl, rfl⟩ := Prod.mk.inj (Except.ok.inj h)
      exact ⟨.single word, rfl, rfl⟩
    · exact hnodot
  | case4 lexemes hqualified hword =>
    intro rest name h
    rw [readName] at h
    · cases h
    · exact hqualified
    · exact hword

theorem readDimensions_sound {element : JavaType} {lexemes : List Lexeme} :
    ∀ {rest : List Lexeme} {type : JavaType}, readDimensions element lexemes = .ok (type, rest) →
      ∃ dimensions, type = nest element dimensions ∧
        lexemes.map Lexeme.token = dimensionTokens dimensions ++ rest.map Lexeme.token ∧
        (element = .void → dimensions = 0) := by
  induction element, lexemes using readDimensions.induct with
  | case1 offset closeOffset tail =>
    intro rest type h
    rw [readDimensions, if_pos rfl] at h
    cases h
  | case2 element offset closeOffset tail hvoid ih =>
    intro rest type h
    rw [readDimensions, if_neg hvoid] at h
    obtain ⟨dimensions, rfl, htokens, -⟩ := ih h
    refine ⟨dimensions + 1, rfl, ?_, fun heq => absurd heq hvoid⟩
    rw [List.map_cons, List.map_cons, htokens]
    rfl
  | case3 element offset tail hclose =>
    intro rest type h
    rw [readDimensions] at h
    · cases h
    · exact hclose
  | case4 element lexemes hpair hopen =>
    intro rest type h
    rw [readDimensions] at h
    · obtain ⟨rfl, rfl⟩ := Prod.mk.inj (Except.ok.inj h)
      exact ⟨0, rfl, rfl, fun _ => rfl⟩
    · exact hpair
    · exact hopen

/-- What was read as a type is `void` where that is allowed, or a proper type. -/
def TypeSound (budget : Nat) : Prop :=
  ∀ {voidAllowed : Bool} {lexemes rest : List Lexeme} {type : JavaType},
    readType budget voidAllowed lexemes = .ok (type, rest) →
      (voidAllowed = true ∧ type = .void ∧
        lexemes.map Lexeme.token = .word "void" :: rest.map Lexeme.token) ∨
      ∃ tree : TypeTree, tree.IsProper ∧ tree.type = type ∧
        lexemes.map Lexeme.token = tree.tokens ++ rest.map Lexeme.token

/-- What was read as type arguments is proper, with the closing bracket behind it. -/
def ArgumentsSound (budget : Nat) : Prop :=
  ∀ {lexemes rest : List Lexeme} {types : List JavaType},
    readArguments budget lexemes = .ok (types, rest) →
      ∃ args : ArgsTree, args.IsProper ∧ args.types = types ∧
        lexemes.map Lexeme.token = args.tokens ++ .mark '>' :: rest.map Lexeme.token

/-- What was read as a type argument is proper. -/
def ArgumentSound (budget : Nat) : Prop :=
  ∀ {lexemes rest : List Lexeme} {type : JavaType},
    readArgument budget lexemes = .ok (type, rest) →
      ∃ arg : ArgTree, arg.IsProper ∧ arg.type = type ∧
        lexemes.map Lexeme.token = arg.tokens ++ rest.map Lexeme.token

theorem typeSound_succ {budget : Nat} (harguments : ArgumentsSound budget) :
    TypeSound (budget + 1) := by
  intro voidAllowed lexemes rest type h
  obtain ⟨name, tail, hname, hcases⟩ := readType_cases h
  obtain ⟨tree, rfl, htokens⟩ := readName_sound hname
  rcases hcases with ⟨kind, hkind, hdimensions⟩ | ⟨hvoid, hallowed, hdimensions⟩ |
    ⟨hkeyword, hvoid, ⟨offset, inner, args, after, rfl, hargs, hdimensions⟩ | ⟨-, hdimensions⟩⟩
  · obtain ⟨dimensions, rfl, hbrackets, -⟩ := readDimensions_sound hdimensions
    have hword := keyword_of_ofKeyword? hkind
    have hsingle : tree = .single kind.keyword := by
      rw [← hword]
      exact NameTree.eq_single (hword ▸ keyword_dotless kind)
    refine .inr ⟨.mk (.primitive kind) dimensions, trivial, rfl, ?_⟩
    rw [htokens, hsingle, hbrackets, ← List.append_assoc]
    rfl
  · obtain ⟨dimensions, rfl, hbrackets, hnone⟩ := readDimensions_sound hdimensions
    have hsingle : tree = .single "void" := by
      rw [← hvoid]
      exact NameTree.eq_single (by rw [hvoid]; decide)
    rw [hnone rfl] at hbrackets ⊢
    refine .inl ⟨hallowed, rfl, ?_⟩
    rw [htokens, hsingle, hbrackets]
    rfl
  · obtain ⟨dimensions, rfl, hbrackets, -⟩ := readDimensions_sound hdimensions
    obtain ⟨argsTree, hproper, rfl, hargTokens⟩ := harguments hargs
    refine .inr ⟨.mk (.generic tree argsTree) dimensions,
      ⟨NameTree.isProper_of_text hkeyword hvoid, hproper⟩, rfl, ?_⟩
    rw [htokens, List.map_cons, hargTokens, hbrackets]
    simp [TypeTree.tokens, BaseTree.tokens]
  · obtain ⟨dimensions, rfl, hbrackets, -⟩ := readDimensions_sound hdimensions
    refine .inr ⟨.mk (.plain tree) dimensions, NameTree.isProper_of_text hkeyword hvoid, rfl, ?_⟩
    rw [htokens, hbrackets, ← List.append_assoc]
    rfl

theorem argumentsSound_succ {budget : Nat} (hargument : ArgumentSound budget)
    (harguments : ArgumentsSound budget) : ArgumentsSound (budget + 1) := by
  intro lexemes rest types h
  rcases readArguments_cases h with
    ⟨type, offset, inner, more, hfirst, hmore, rfl⟩ | ⟨type, offset, hfirst, rfl⟩
  · obtain ⟨arg, hproper, rfl, htokens⟩ := hargument hfirst
    obtain ⟨args, hallProper, rfl, hrest⟩ := harguments hmore
    refine ⟨.cons arg args, ⟨hproper, hallProper⟩, rfl, ?_⟩
    rw [htokens, List.map_cons, hrest]
    simp [ArgsTree.tokens]
  · obtain ⟨arg, hproper, rfl, htokens⟩ := hargument hfirst
    exact ⟨.single arg, hproper, rfl, htokens⟩

theorem argumentSound_succ {budget : Nat} (htype : TypeSound budget) :
    ArgumentSound (budget + 1) := by
  intro lexemes rest type h
  rcases readArgument_cases h with ⟨offset, rfl, rfl⟩ |
    ⟨offset, wordOffset, inner, bound, rfl, hbound, rfl⟩ |
    ⟨offset, wordOffset, inner, bound, rfl, hbound, rfl⟩ | ⟨hplain, hprimitive⟩
  · exact ⟨.any, trivial, rfl, rfl⟩
  · rcases htype hbound with ⟨hfalse, -⟩ | ⟨tree, hproper, rfl, htokens⟩
    · cases hfalse
    · refine ⟨.upper tree, hproper, rfl, ?_⟩
      rw [List.map_cons, List.map_cons, htokens]
      rfl
  · rcases htype hbound with ⟨hfalse, -⟩ | ⟨tree, hproper, rfl, htokens⟩
    · cases hfalse
    · refine ⟨.lower tree, hproper, rfl, ?_⟩
      rw [List.map_cons, List.map_cons, htokens]
      rfl
  · rcases htype hplain with ⟨hfalse, -⟩ | ⟨tree, hproper, rfl, htokens⟩
    · cases hfalse
    · refine ⟨.exact tree, ⟨hproper, ?_⟩, rfl, htokens⟩
      rw [← TypeTree.isPrimitive_type, hprimitive]
      exact Bool.false_ne_true

/-- Whatever is read, the lexemes that were read are the tokens of a proper tree. -/
theorem reading_sound (budget : Nat) :
    TypeSound budget ∧ ArgumentsSound budget ∧ ArgumentSound budget := by
  induction budget with
  | zero =>
    refine ⟨?_, ?_, ?_⟩
    · intro voidAllowed lexemes rest type h
      rw [readType] at h
      cases h
    · intro lexemes rest types h
      rw [readArguments] at h
      cases h
    · intro lexemes rest type h
      rw [readArgument] at h
      cases h
  | succ budget ih =>
    obtain ⟨htype, harguments, hargument⟩ := ih
    exact ⟨typeSound_succ harguments, argumentsSound_succ hargument harguments,
      argumentSound_succ htype⟩

/-! ## Completeness -/

/-- Lexemes that do not begin with one of some tokens. -/
def Avoids (tokens : List Token) (lexemes : List Lexeme) : Prop :=
  ∀ lexeme ∈ lexemes.head?, lexeme.token ∉ tokens

theorem Avoids.not_cons {tokens : List Token} {lexemes : List Lexeme} {token : Token}
    (h : Avoids tokens lexemes) (hmem : token ∈ tokens) :
    ∀ offset tail, lexemes = ⟨token, offset⟩ :: tail → False := by
  rintro offset tail rfl
  exact h ⟨token, offset⟩ rfl hmem

theorem Avoids.mono {tokens fewer : List Token} {lexemes : List Lexeme} (h : Avoids tokens lexemes)
    (hsubset : ∀ token ∈ fewer, token ∈ tokens) : Avoids fewer lexemes := by
  intro lexeme hhead hmem
  exact h lexeme hhead (hsubset lexeme.token hmem)

theorem avoids_cons {tokens : List Token} {lexeme : Lexeme} {lexemes : List Lexeme}
    (h : lexeme.token ∉ tokens) : Avoids tokens (lexeme :: lexemes) := by
  intro first hfirst
  rw [← Option.some.inj hfirst]
  exact h

/-- What may follow a type: no dot, no type arguments, no further dimension. -/
abbrev typeEnd : List Token := [.mark '.', .mark '<', .mark '[']

theorem exists_cons_of_map_token {lexemes : List Lexeme} {token : Token} {tokens : List Token}
    (h : lexemes.map Lexeme.token = token :: tokens) :
    ∃ offset tail, lexemes = ⟨token, offset⟩ :: tail ∧ tail.map Lexeme.token = tokens := by
  obtain ⟨⟨first, offset⟩, tail, rfl, rfl, htail⟩ := List.map_eq_cons_iff.1 h
  exact ⟨offset, tail, rfl, htail⟩

theorem readName_complete (tree : NameTree) :
    ∀ {front rest : List Lexeme}, front.map Lexeme.token = tree.tokens →
      Avoids [.mark '.'] rest → readName (front ++ rest) = .ok (tree.text, rest) := by
  induction tree with
  | single word =>
    intro front rest hfront hrest
    obtain ⟨offset, tail, rfl, htail⟩ := exists_cons_of_map_token hfront
    rw [List.map_eq_nil_iff.1 htail, List.singleton_append, readName]
    · rfl
    · exact hrest.not_cons List.mem_cons_self
  | qualified word more ih =>
    intro front rest hfront hrest
    obtain ⟨offset, tail, rfl, htail⟩ := exists_cons_of_map_token hfront
    obtain ⟨dotOffset, names, rfl, hnames⟩ := exists_cons_of_map_token htail
    rw [List.cons_append, List.cons_append, readName, ih hnames hrest]
    rfl

theorem readDimensions_complete (dimensions : Nat) :
    ∀ {element : JavaType} {front rest : List Lexeme}, element ≠ .void →
      front.map Lexeme.token = dimensionTokens dimensions → Avoids [.mark '['] rest →
      readDimensions element (front ++ rest) = .ok (nest element dimensions, rest) := by
  induction dimensions with
  | zero =>
    intro element front rest hvoid hfront hrest
    have hopen := hrest.not_cons List.mem_cons_self
    rw [List.map_eq_nil_iff.1 hfront, List.nil_append, readDimensions]
    · rfl
    · intro offset closeOffset tail heq
      exact hopen offset _ heq
    · exact hopen
  | succ dimensions ih =>
    intro element front rest hvoid hfront hrest
    obtain ⟨offset, tail, rfl, htail⟩ := exists_cons_of_map_token hfront
    obtain ⟨closeOffset, more, rfl, hmore⟩ := exists_cons_of_map_token htail
    rw [List.cons_append, List.cons_append, readDimensions, if_neg hvoid]
    exact ih (by simp) hmore hrest

/-- What follows a base never looks like a part of it. -/
theorem avoids_dimensions {dimensions : Nat} {front rest : List Lexeme}
    (hfront : front.map Lexeme.token = dimensionTokens dimensions)
    (hrest : Avoids typeEnd rest) : Avoids [.mark '.', .mark '<'] (front ++ rest) := by
  cases dimensions with
  | zero =>
    rw [List.map_eq_nil_iff.1 hfront, List.nil_append]
    exact hrest.mono (by simp)
  | succ dimensions =>
    obtain ⟨offset, tail, rfl, -⟩ := exists_cons_of_map_token hfront
    exact avoids_cons (by simp)

theorem NameTree.exists_word (tree : NameTree) :
    ∃ word more, tree.tokens = .word word :: more := by
  cases tree with
  | single word => exact ⟨word, [], rfl⟩
  | qualified word rest => exact ⟨word, .mark '.' :: rest.tokens, rfl⟩

/-- Every type begins with a word. -/
theorem TypeTree.exists_word (tree : TypeTree) :
    ∃ word more, tree.tokens = .word word :: more := by
  obtain ⟨base, dimensions⟩ := tree
  cases base with
  | primitive kind => exact ⟨kind.keyword, _, rfl⟩
  | plain name =>
    obtain ⟨word, more, hname⟩ := name.exists_word
    refine ⟨word, more ++ dimensionTokens dimensions, ?_⟩
    rw [TypeTree.tokens, BaseTree.tokens, hname, List.cons_append]
  | generic name args =>
    obtain ⟨word, more, hname⟩ := name.exists_word
    refine ⟨word, (more ++ .mark '<' :: (args.tokens ++ [.mark '>']))
      ++ dimensionTokens dimensions, ?_⟩
    rw [TypeTree.tokens, BaseTree.tokens, hname, List.cons_append, List.cons_append]

/-- A proper name is read neither as a keyword nor as `void`. -/
theorem NameTree.text_of_isProper {tree : NameTree} (h : tree.IsProper) :
    Primitive.ofKeyword? tree.text = none ∧ tree.text ≠ "void" := by
  cases tree with
  | single word => exact h
  | qualified word rest =>
    have hdot : '.' ∈ (NameTree.qualified word rest).text.toList := by
      simp [NameTree.text]
    constructor
    · cases hkind : Primitive.ofKeyword? (NameTree.qualified word rest).text with
      | none => rfl
      | some kind =>
        rw [keyword_of_ofKeyword? hkind] at hdot
        exact absurd hdot (keyword_dotless kind)
    · intro hvoid
      rw [hvoid] at hdot
      exact absurd hdot (by decide)

/-! ### Behind a name -/

section Types

variable {lexemes tail : List Lexeme} {name : String}

theorem readType_keyword (hname : readName lexemes = .ok (name, tail)) {kind : Primitive}
    (hkind : Primitive.ofKeyword? name = some kind) (budget : Nat) (voidAllowed : Bool) :
    readType (budget + 1) voidAllowed lexemes = readDimensions (.primitive kind) tail := by
  rw [readType, hname]
  dsimp only
  rw [hkind]

theorem readType_void (hname : readName lexemes = .ok ("void", tail)) (budget : Nat) :
    readType (budget + 1) true lexemes = readDimensions .void tail := by
  have hkeyword : Primitive.ofKeyword? "void" = none := by decide
  rw [readType, hname]
  dsimp only
  rw [hkeyword]
  rfl

theorem readType_plain (hname : readName lexemes = .ok (name, tail))
    (hkeyword : Primitive.ofKeyword? name = none) (hvoid : name ≠ "void")
    (hplain : Avoids [.mark '<'] tail) (budget : Nat) (voidAllowed : Bool) :
    readType (budget + 1) voidAllowed lexemes = readDimensions (.declared name []) tail := by
  rw [readType, hname]
  dsimp only
  rw [hkeyword]
  dsimp only
  rw [if_neg hvoid]
  split
  · next offset inner => exact (hplain.not_cons List.mem_cons_self offset inner rfl).elim
  · rfl

theorem readType_generic {offset : Nat} {inner after : List Lexeme} {args : List JavaType}
    {budget : Nat} (hname : readName lexemes = .ok (name, ⟨.mark '<', offset⟩ :: inner))
    (hkeyword : Primitive.ofKeyword? name = none) (hvoid : name ≠ "void")
    (hargs : readArguments budget inner = .ok (args, after)) (voidAllowed : Bool) :
    readType (budget + 1) voidAllowed lexemes = readDimensions (.declared name args) after := by
  rw [readType, hname]
  dsimp only
  rw [hkeyword]
  dsimp only
  rw [if_neg hvoid]
  simp only [hargs]

end Types

mutual

/-- The reader finds a proper type where its lexemes stand. -/
theorem TypeTree.read_complete : ∀ (tree : TypeTree), tree.IsProper →
    ∀ (budget : Nat) (voidAllowed : Bool) (front rest : List Lexeme),
      front.map Lexeme.token = tree.tokens → tree.tokens.length ≤ budget → Avoids typeEnd rest →
      readType budget voidAllowed (front ++ rest) = .ok (tree.type, rest)
  | .mk base dimensions, hproper => by
    intro budget voidAllowed front rest hfront hbudget hrest
    obtain ⟨baseFront, brackets, rfl, hbase, hbrackets⟩ := List.map_eq_append_iff.1 hfront
    have hlength : base.tokens.length ≤ budget := by
      rw [TypeTree.tokens, List.length_append] at hbudget
      omega
    have hread := BaseTree.read_complete base hproper budget baseFront _ hbase hlength
      (avoids_dimensions hbrackets hrest)
    have hvoid : base.type ≠ .void := by cases base <;> simp [BaseTree.type]
    rw [List.append_assoc, hread voidAllowed]
    exact readDimensions_complete dimensions hvoid hbrackets (hrest.mono (by simp))

/-- After a base, the reader goes on to the dimensions. -/
theorem BaseTree.read_complete : ∀ (base : BaseTree), base.IsProper →
    ∀ (budget : Nat) (front rest : List Lexeme),
      front.map Lexeme.token = base.tokens → base.tokens.length ≤ budget →
      Avoids [.mark '.', .mark '<'] rest → ∀ voidAllowed,
      readType budget voidAllowed (front ++ rest) = readDimensions base.type rest
  | .primitive kind, _ => by
    intro budget front rest hfront hbudget hrest voidAllowed
    obtain ⟨budget, rfl⟩ : ∃ less, budget = less + 1 := ⟨budget - 1, by
      rw [BaseTree.tokens, List.length_singleton] at hbudget
      omega⟩
    have hname : readName (front ++ rest) = .ok (kind.keyword, rest) :=
      readName_complete (.single kind.keyword) hfront (hrest.mono (by simp))
    -- Behind a keyword the reader goes on to the dimensions at once.
    exact readType_keyword hname (Primitive.ofKeyword?_keyword kind) budget voidAllowed
  | .plain name, hproper => by
    intro budget front rest hfront hbudget hrest voidAllowed
    obtain ⟨hkeyword, hvoid⟩ := NameTree.text_of_isProper hproper
    obtain ⟨budget, rfl⟩ : ∃ less, budget = less + 1 := ⟨budget - 1, by
      obtain ⟨word, more, hword⟩ := name.exists_word
      rw [BaseTree.tokens, hword, List.length_cons] at hbudget
      omega⟩
    exact readType_plain (readName_complete name hfront (hrest.mono (by simp))) hkeyword hvoid
      (hrest.mono (by simp)) budget voidAllowed
  | .generic name args, hproper => by
    intro budget front rest hfront hbudget hrest voidAllowed
    obtain ⟨hkeyword, hvoid⟩ := NameTree.text_of_isProper hproper.1
    obtain ⟨nameFront, angled, rfl, hname, hangled⟩ := List.map_eq_append_iff.1 hfront
    obtain ⟨offset, inner, rfl, hinner⟩ := exists_cons_of_map_token hangled
    obtain ⟨argsFront, close, rfl, hargs, hclose⟩ := List.map_eq_append_iff.1 hinner
    obtain ⟨closeOffset, nothing, rfl, hnothing⟩ := exists_cons_of_map_token hclose
    rw [List.map_eq_nil_iff.1 hnothing]
    obtain ⟨word, more, hword⟩ := name.exists_word
    -- The name and the two brackets pay for the steps that do not read an argument.
    have hlength : args.tokens.length + 3 ≤ budget := by
      simp only [BaseTree.tokens, hword, List.length_append, List.length_cons,
        List.length_nil] at hbudget
      omega
    obtain ⟨budget, rfl⟩ : ∃ less, budget = less + 1 := ⟨budget - 1, by omega⟩
    have hshape : nameFront ++ ⟨.mark '<', offset⟩ :: (argsFront ++ [⟨.mark '>', closeOffset⟩]) ++ rest
        = nameFront ++ (⟨.mark '<', offset⟩ :: (argsFront ++ ⟨.mark '>', closeOffset⟩ :: rest)) := by
      simp
    have hread := ArgsTree.read_complete args hproper.2 closeOffset budget argsFront rest hargs
      (by omega)
    have hafter : readName (nameFront ++ (⟨.mark '<', offset⟩ ::
        (argsFront ++ ⟨.mark '>', closeOffset⟩ :: rest))) = .ok (name.text, _) :=
      readName_complete name hname (avoids_cons (by simp))
    rw [hshape]
    exact readType_generic hafter hkeyword hvoid hread voidAllowed

/-- The reader finds proper type arguments in front of a closing bracket. -/
theorem ArgsTree.read_complete : ∀ (args : ArgsTree), args.IsProper →
    ∀ (offset budget : Nat) (front rest : List Lexeme),
      front.map Lexeme.token = args.tokens → args.tokens.length + 2 ≤ budget →
      readArguments budget (front ++ ⟨.mark '>', offset⟩ :: rest) = .ok (args.types, rest)
  | .single arg, hproper => by
    intro offset budget front rest hfront hbudget
    rw [ArgsTree.tokens] at hbudget
    obtain ⟨budget, rfl⟩ : ∃ less, budget = less + 1 := ⟨budget - 1, by omega⟩
    rw [readArguments, ArgTree.read_complete arg hproper _ _ _ _ (.inr rfl) hfront (by omega)]
    rfl
  | .cons arg more, hproper => by
    intro offset budget front rest hfront hbudget
    obtain ⟨argFront, separated, rfl, harg, hseparated⟩ := List.map_eq_append_iff.1 hfront
    obtain ⟨commaOffset, moreFront, rfl, hmore⟩ := exists_cons_of_map_token hseparated
    rw [ArgsTree.tokens, List.length_append, List.length_cons] at hbudget
    obtain ⟨budget, rfl⟩ : ∃ less, budget = less + 1 := ⟨budget - 1, by omega⟩
    have hfirst := ArgTree.read_complete arg hproper.1 ⟨.mark ',', commaOffset⟩ budget argFront
      (moreFront ++ ⟨.mark '>', offset⟩ :: rest) (.inl rfl) harg (by omega)
    have hmore := ArgsTree.read_complete more hproper.2 offset budget moreFront rest hmore
      (by omega)
    rw [List.append_assoc, List.cons_append]
    simp only [readArguments, hfirst, hmore]
    rfl

/-- The reader finds a proper type argument in front of a comma or a closing bracket. -/
theorem ArgTree.read_complete : ∀ (arg : ArgTree), arg.IsProper →
    ∀ (next : Lexeme) (budget : Nat) (front rest : List Lexeme),
      (next.token = .mark ',' ∨ next.token = .mark '>') → front.map Lexeme.token = arg.tokens →
      arg.tokens.length + 1 ≤ budget →
      readArgument budget (front ++ next :: rest) = .ok (arg.type, next :: rest)
  | .any, _ => by
    intro next budget front rest hnext hfront hbudget
    obtain ⟨token, nextOffset⟩ := next
    obtain ⟨offset, tail, rfl, htail⟩ := exists_cons_of_map_token hfront
    obtain ⟨budget, rfl⟩ : ∃ less, budget = less + 1 := ⟨budget - 1, by omega⟩
    rw [List.map_eq_nil_iff.1 htail, List.singleton_append]
    rcases hnext with rfl | rfl
    · rw [readArgument]
      rfl
    · rw [readArgument]
      rfl
  | .upper bound, hproper => by
    intro next budget front rest hnext hfront hbudget
    obtain ⟨offset, tail, rfl, htail⟩ := exists_cons_of_map_token hfront
    obtain ⟨wordOffset, boundFront, rfl, hbound⟩ := exists_cons_of_map_token htail
    rw [ArgTree.tokens, List.length_cons, List.length_cons] at hbudget
    obtain ⟨budget, rfl⟩ : ∃ less, budget = less + 1 := ⟨budget - 1, by omega⟩
    have hend : Avoids typeEnd (next :: rest) :=
      avoids_cons (by rcases hnext with h | h <;> rw [h] <;> simp)
    rw [List.cons_append, List.cons_append, readArgument, if_pos rfl,
      TypeTree.read_complete bound hproper _ _ _ _ hbound (by omega) hend]
    rfl
  | .lower bound, hproper => by
    intro next budget front rest hnext hfront hbudget
    obtain ⟨offset, tail, rfl, htail⟩ := exists_cons_of_map_token hfront
    obtain ⟨wordOffset, boundFront, rfl, hbound⟩ := exists_cons_of_map_token htail
    rw [ArgTree.tokens, List.length_cons, List.length_cons] at hbudget
    obtain ⟨budget, rfl⟩ : ∃ less, budget = less + 1 := ⟨budget - 1, by omega⟩
    have hend : Avoids typeEnd (next :: rest) :=
      avoids_cons (by rcases hnext with h | h <;> rw [h] <;> simp)
    rw [List.cons_append, List.cons_append, readArgument, if_neg (by decide), if_pos rfl,
      TypeTree.read_complete bound hproper _ _ _ _ hbound (by omega) hend]
    rfl
  | .exact tree, hproper => by
    intro next budget front rest hnext hfront hbudget
    rw [ArgTree.tokens] at hfront hbudget
    obtain ⟨word, more, hword⟩ := tree.exists_word
    obtain ⟨budget, rfl⟩ : ∃ less, budget = less + 1 := ⟨budget - 1, by omega⟩
    have hend : Avoids typeEnd (next :: rest) :=
      avoids_cons (by rcases hnext with h | h <;> rw [h] <;> simp)
    have hplain : ∀ offset inner, front ++ next :: rest = ⟨.mark '?', offset⟩ :: inner → False := by
      intro offset inner heq
      rw [hword] at hfront
      obtain ⟨wordOffset, tail, rfl, -⟩ := exists_cons_of_map_token hfront
      cases heq
    have hprimitive : tree.type.isPrimitive = false := by
      rw [Bool.eq_false_iff, Ne, TypeTree.isPrimitive_type]
      exact hproper.2
    rw [readArgument_plain hplain, TypeTree.read_complete tree hproper.1 _ _ _ _ hfront (by omega) hend]
    dsimp only
    rw [hprimitive]
    rfl

end

/-! ## Whole texts -/

/-- The reader accepts exactly the token sequences of proper trees. -/
theorem ofLexemes_eq_ok_iff {lexemes : List Lexeme} {type : JavaType} :
    ofLexemes lexemes = .ok type ↔
      ∃ tree : TopTree, tree.IsProper ∧ tree.type = type ∧
        lexemes.map Lexeme.token = tree.tokens := by
  rw [ofLexemes]
  constructor
  · intro h
    cases hread : readType (readingBudget lexemes) true lexemes with
    | error fault =>
      rw [hread] at h
      cases h
    | ok read =>
      obtain ⟨found, rest⟩ := read
      rw [hread] at h
      cases rest with
      | cons next rest => cases h
      | nil =>
        rw [← Except.ok.inj h]
        rcases (reading_sound (readingBudget lexemes)).1 hread with
          ⟨-, rfl, htokens⟩ | ⟨tree, hproper, htype, htokens⟩
        · exact ⟨.void, trivial, rfl, htokens⟩
        · refine ⟨.value tree, hproper, htype, ?_⟩
          rw [htokens, List.map_nil, List.append_nil]
          rfl
  · rintro ⟨tree, hproper, rfl, htokens⟩
    cases tree with
    | void =>
      obtain ⟨offset, rest, rfl, hrest⟩ := exists_cons_of_map_token htokens
      rw [List.map_eq_nil_iff.1 hrest]
      rfl
    | value tree =>
      have hbudget : tree.tokens.length ≤ readingBudget lexemes := by
        have hlength := congrArg List.length htokens
        rw [List.length_map] at hlength
        rw [TopTree.tokens] at hlength
        rw [readingBudget]
        omega
      have hend : Avoids typeEnd [] := by
        intro lexeme hhead
        cases hhead
      have hread := TypeTree.read_complete tree hproper (readingBudget lexemes) true lexemes []
        htokens hbudget hend
      rw [List.append_nil] at hread
      rw [hread]
      rfl

theorem parse_eq_ok_iff_lexemes {text : String} {type : JavaType} :
    parse text = .ok type ↔ ofLexemes (lex text) = .ok type := by
  rw [parse]
  cases ofLexemes (lex text) with
  | error fault => simp
  | ok found => simp

/-- The reader accepts exactly the texts that have a derivation, with the type that the derivation
denotes; no text has two derivations, and a text without one is refused with a fault. -/
theorem parse_recognizes (text : String) :
    (∀ type, parse text = .ok type ↔ ∃ derivation : Derivation text, derivation.type = type) ∧
    (∀ first second : Derivation text, first = second) ∧
    ((∃ fault, parse text = .error ⟨text, fault⟩) ↔ ¬ Nonempty (Derivation text)) := by
  have haccept : ∀ type, ofLexemes (lex text) = .ok type ↔
      ∃ derivation : Derivation text, derivation.type = type := by
    intro type
    rw [ofLexemes_eq_ok_iff]
    constructor
    · rintro ⟨tree, hproper, htype, htokens⟩
      exact ⟨⟨tree, hproper, tokenized_iff.2 ⟨htokens, tree.tokens_isProper⟩⟩, htype⟩
    · rintro ⟨derivation, htype⟩
      exact ⟨derivation.tree, derivation.proper, htype, (tokenized_iff.1 derivation.tokenized).1⟩
  have hparse : ∀ type, parse text = .ok type ↔ ofLexemes (lex text) = .ok type := by
    intro type
    rw [parse]
    cases ofLexemes (lex text) with
    | error fault => simp
    | ok found => simp
  refine ⟨fun type => (hparse type).trans (haccept type), ?_, ?_⟩
  · intro first second
    have hfirst := (haccept first.type).2 ⟨first, rfl⟩
    have hsecond := (haccept second.type).2 ⟨second, rfl⟩
    rw [hfirst] at hsecond
    -- Two derivations denote the same type, and one tree only derives it.
    have htree : first.tree = second.tree :=
      TopTree.eq_of_type_eq first.tokenized.isDotless second.tokenized.isDotless
        (Except.ok.inj hsecond)
    cases first
    cases second
    cases htree
    rfl
  · constructor
    · rintro ⟨fault, hfault⟩ ⟨derivation⟩
      have hok := (hparse derivation.type).2 ((haccept derivation.type).2 ⟨derivation, rfl⟩)
      rw [hfault] at hok
      cases hok
    · intro hnone
      cases hread : ofLexemes (lex text) with
      | error fault =>
        refine ⟨fault, ?_⟩
        rw [parse]
        rw [hread]
      | ok type =>
        obtain ⟨derivation, -⟩ := (haccept type).1 hread
        exact absurd ⟨derivation⟩ hnone

end BundleBuilder.JavaType
