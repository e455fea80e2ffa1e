import BundleBuilder.JavaType.Printer
import BundleBuilder.Proofs.JavaType.Recognition

/-!
# Writing types and reading them back

A type can be printed if it obeys the rules of the grammar: `void` stands alone, wildcards stand
only as type arguments, primitives never do, there are no type variables, and a declared name is a
dotted sequence of identifiers that is read as a name. Reading gives printable types only, and the
printable types are exactly those that are read back from their own text
(`parse_text_inverse`).

Both directions go over derivation trees. A proper tree whose words are identifiers denotes a
printable type. A printable type has a proper tree whose tokens its text spells, whatever follows
the text, as long as it does not continue the last word.
-/

set_option autoImplicit false

namespace BundleBuilder.JavaType

/-! ## Printable types -/

/-- A dotted sequence of identifiers that is neither a lone keyword nor a lone `void`. -/
def IsDeclarable (name : String) : Prop :=
  (∀ segment ∈ Text.segments name, isIdentifier segment = true) ∧
    Primitive.ofKeyword? name = none ∧ name ≠ "void"

instance (name : String) : Decidable (IsDeclarable name) :=
  inferInstanceAs (Decidable ((∀ segment ∈ Text.segments name, isIdentifier segment = true) ∧
    Primitive.ofKeyword? name = none ∧ name ≠ "void"))

/-- Where a type stands in a text: alone, as an array element or the bound of a wildcard, or as a
type argument. -/
inductive Place where
  | whole
  | element
  | argument
  deriving DecidableEq

mutual

/-- The type may stand at the place, and everything in it stands where it may. -/
def IsPrintableAt (place : Place) : JavaType → Prop
  | .primitive _ => place ≠ .argument
  | .void => place = .whole
  | .declared name args => IsDeclarable name ∧ ArePrintable args
  | .array element => element.IsPrintableAt .element
  | .typeVariable _ => False
  | .wildcard => place = .argument
  | .wildcardExtends bound => place = .argument ∧ bound.IsPrintableAt .element
  | .wildcardSuper bound => place = .argument ∧ bound.IsPrintableAt .element

/-- All types of a list may be type arguments. -/
def ArePrintable : List JavaType → Prop
  | [] => True
  | type :: types => type.IsPrintableAt .argument ∧ ArePrintable types

end

mutual

/-- Decides whether a type may stand at a place. -/
def decideIsPrintableAt (place : Place) : (type : JavaType) → Decidable (type.IsPrintableAt place)
  | .primitive _ => inferInstanceAs (Decidable (place ≠ .argument))
  | .void => inferInstanceAs (Decidable (place = .whole))
  | .declared name args =>
    have := decideArePrintable args
    inferInstanceAs (Decidable (IsDeclarable name ∧ ArePrintable args))
  | .array element => decideIsPrintableAt .element element
  | .typeVariable _ => inferInstanceAs (Decidable False)
  | .wildcard => inferInstanceAs (Decidable (place = .argument))
  | .wildcardExtends bound =>
    have := decideIsPrintableAt .element bound
    inferInstanceAs (Decidable (place = .argument ∧ bound.IsPrintableAt .element))
  | .wildcardSuper bound =>
    have := decideIsPrintableAt .element bound
    inferInstanceAs (Decidable (place = .argument ∧ bound.IsPrintableAt .element))

/-- Decides whether all types of a list may be type arguments. -/
def decideArePrintable : (types : List JavaType) → Decidable (ArePrintable types)
  | [] => inferInstanceAs (Decidable True)
  | type :: types =>
    have := decideIsPrintableAt .argument type
    have := decideArePrintable types
    inferInstanceAs (Decidable (type.IsPrintableAt .argument ∧ ArePrintable types))

end

instance (place : Place) (type : JavaType) : Decidable (type.IsPrintableAt place) :=
  decideIsPrintableAt place type

/-- A type that can be printed. -/
def IsPrintable (type : JavaType) : Prop := type.IsPrintableAt .whole

instance (type : JavaType) : Decidable type.IsPrintable := decideIsPrintableAt .whole type

/-- Alone stands `void` or what may also be an element. -/
theorem isPrintable_iff {type : JavaType} :
    type.IsPrintable ↔ type = .void ∨ type.IsPrintableAt .element := by
  cases type <;> simp [IsPrintable, IsPrintableAt]

/-- What may be an element may be an argument unless it is primitive. -/
theorem IsPrintableAt.argument {type : JavaType} (h : type.IsPrintableAt .element)
    (hprimitive : type.isPrimitive = false) : type.IsPrintableAt .argument := by
  cases type <;> simp_all [IsPrintableAt, isPrimitive]

theorem IsPrintableAt.nest {element : JavaType} (h : element.IsPrintableAt .element)
    (dimensions : Nat) : (nest element dimensions).IsPrintableAt .element := by
  induction dimensions with
  | zero => exact h
  | succ dimensions ih =>
    rw [nest_succ]
    exact ih

/-! ## What is read is printable -/

/-- The text of a proper name is declarable. -/
theorem NameTree.isDeclarable {tree : NameTree} (hproper : tree.IsProper)
    (hlexical : ∀ token ∈ tree.tokens, token.IsLexical) : IsDeclarable tree.text := by
  refine ⟨?_, NameTree.text_of_isProper hproper⟩
  clear hproper
  induction tree with
  | single word =>
    have hword : isIdentifier word = true := hlexical (.word word) List.mem_cons_self
    rw [NameTree.text, Text.segments_of_not_mem (dotless_of_isIdentifier hword)]
    simpa using hword
  | qualified word rest ih =>
    have hword : isIdentifier word = true := hlexical (.word word) List.mem_cons_self
    rw [NameTree.text, Text.segments_append_dot (dotless_of_isIdentifier hword)]
    refine List.forall_mem_cons.2 ⟨hword, ih fun token hmem => hlexical token ?_⟩
    simp [NameTree.tokens, hmem]

mutual

/-- A proper tree over identifiers denotes a printable type. -/
theorem TypeTree.isPrintable : ∀ tree : TypeTree, tree.IsProper →
    (∀ token ∈ tree.tokens, token.IsLexical) → tree.type.IsPrintableAt .element
  | .mk base dimensions, hproper, hlexical =>
    (BaseTree.isPrintable base hproper fun token hmem =>
      hlexical token (List.mem_append_left _ hmem)).nest dimensions

theorem BaseTree.isPrintable : ∀ base : BaseTree, base.IsProper →
    (∀ token ∈ base.tokens, token.IsLexical) → base.type.IsPrintableAt .element
  | .primitive kind, _, _ => by simp [BaseTree.type, IsPrintableAt]
  | .plain name, hproper, hlexical => ⟨NameTree.isDeclarable hproper hlexical, trivial⟩
  | .generic name args, hproper, hlexical => by
    refine ⟨NameTree.isDeclarable hproper.1 fun token hmem => hlexical token ?_,
      ArgsTree.arePrintable args hproper.2 fun token hmem => hlexical token ?_⟩
    · exact List.mem_append_left _ hmem
    · simp [BaseTree.tokens, hmem]

theorem ArgsTree.arePrintable : ∀ args : ArgsTree, args.IsProper →
    (∀ token ∈ args.tokens, token.IsLexical) → ArePrintable args.types
  | .single arg, hproper, hlexical => ⟨ArgTree.isPrintable arg hproper hlexical, trivial⟩
  | .cons arg rest, hproper, hlexical => by
    refine ⟨ArgTree.isPrintable arg hproper.1 fun token hmem => hlexical token ?_,
      ArgsTree.arePrintable rest hproper.2 fun token hmem => hlexical token ?_⟩
    · exact List.mem_append_left _ hmem
    · simp [ArgsTree.tokens, hmem]

theorem ArgTree.isPrintable : ∀ arg : ArgTree, arg.IsProper →
    (∀ token ∈ arg.tokens, token.IsLexical) → arg.type.IsPrintableAt .argument
  | .any, _, _ => rfl
  | .upper bound, hproper, hlexical => by
    refine ⟨rfl, TypeTree.isPrintable bound hproper fun token hmem => hlexical token ?_⟩
    simp [ArgTree.tokens, hmem]
  | .lower bound, hproper, hlexical => by
    refine ⟨rfl, TypeTree.isPrintable bound hproper fun token hmem => hlexical token ?_⟩
    simp [ArgTree.tokens, hmem]
  | .exact tree, hproper, hlexical => by
    refine (TypeTree.isPrintable tree hproper.1 hlexical).argument ?_
    rw [Bool.eq_false_iff, Ne, TypeTree.isPrimitive_type]
    exact hproper.2

end

theorem TopTree.isPrintable {tree : TopTree} (hproper : tree.IsProper)
    (hlexical : ∀ token ∈ tree.tokens, token.IsLexical) : tree.type.IsPrintable := by
  cases tree with
  | void => rfl
  | value tree => exact isPrintable_iff.2 (.inr (tree.isPrintable hproper hlexical))

/-! ## What a text spells -/

/-- A text splits into tokens whatever follows it, unless its last word goes on. -/
def Spells (text : List Char) (tokens : List Token) : Prop :=
  ∀ ⦃rest : List Char⦄ ⦃more : List Token⦄, EndsWord rest → Tokenized rest more →
    Tokenized (text ++ rest) (tokens ++ more)

theorem endsWord_cons {c : Char} (h : Text.isIdentifierPart c = false) (rest : List Char) :
    EndsWord (c :: rest) := by
  intro head hhead
  rw [List.head?_cons, Option.mem_def, Option.some.injEq] at hhead
  rw [← hhead]
  exact h

namespace Spells

variable {text front back : List Char} {tokens frontTokens backTokens : List Token} {c : Char}

theorem nil : Spells [] [] := fun _ _ _ h => h

theorem mark (hmark : c ∈ punctuation) (h : Spells text tokens) :
    Spells (c :: text) (.mark c :: tokens) :=
  fun _ _ hrest hmore => .mark hmark (h hrest hmore)

theorem blank (h : Spells text tokens) : Spells (' ' :: text) tokens :=
  fun _ _ hrest hmore => .space (by decide) (h hrest hmore)

/-- An identifier is one word. -/
theorem word {name : String} (h : isIdentifier name = true) :
    Spells name.toList [.word name] := by
  intro rest more hrest hmore
  rw [isIdentifier] at h
  cases hchars : name.toList with
  | nil =>
    rw [hchars] at h
    cases h
  | cons start chars =>
    rw [hchars] at h
    obtain ⟨hstart, htail⟩ := Bool.and_eq_true_iff.1 h
    have hword := Tokenized.word hstart (List.all_eq_true.1 htail) hrest hmore
    rw [← hchars, String.ofList_toList] at hword
    exact hword

/-- Two texts can be joined where the second one does not continue a word. -/
theorem append (hfront : Spells front frontTokens) (hc : Text.isIdentifierPart c = false)
    (hback : Spells (c :: back) backTokens) :
    Spells (front ++ c :: back) (frontTokens ++ backTokens) := by
  intro rest more hrest hmore
  rw [List.append_assoc, List.append_assoc]
  exact hfront (endsWord_cons hc _) (hback hrest hmore)

/-- A punctuation mark never continues a word. -/
theorem append_mark (hfront : Spells front frontTokens) (hmark : c ∈ punctuation)
    (hback : Spells back backTokens) :
    Spells (front ++ c :: back) (frontTokens ++ .mark c :: backTokens) := by
  have hall : punctuation.all (fun c => !Text.isIdentifierPart c) = true := by decide +kernel
  exact hfront.append (by simpa using List.all_eq_true.1 hall c hmark) (hback.mark hmark)

end Spells

/-! ## What is printable is read back -/

/-- The type has a proper tree, and its text spells the tokens of the tree. -/
def HasTypeTree (type : JavaType) : Prop :=
  ∃ tree : TypeTree, tree.IsProper ∧ tree.type = type ∧ Spells type.text.toList tree.tokens

/-- The type has a proper tree as a type argument. -/
def HasArgTree (type : JavaType) : Prop :=
  ∃ tree : ArgTree, tree.IsProper ∧ tree.type = type ∧ Spells type.text.toList tree.tokens

/-- The types have a proper tree as type arguments with commas between them. -/
def HasArgsTree (types : List JavaType) : Prop :=
  ∃ tree : ArgsTree, tree.IsProper ∧ tree.types = types ∧
    Spells (Text.join ", " (types.map text)).toList tree.tokens

theorem HasTypeTree.argument {type : JavaType} (h : HasTypeTree type)
    (hprimitive : type.isPrimitive = false) : HasArgTree type := by
  obtain ⟨tree, hproper, rfl, hspells⟩ := h
  refine ⟨.exact tree, ⟨hproper, ?_⟩, rfl, hspells⟩
  rw [← TypeTree.isPrimitive_type, hprimitive]
  exact Bool.false_ne_true

/-- A list of identifiers with dots between them is a name. -/
theorem exists_nameTree {words : List String} (hne : words ≠ [])
    (hwords : ∀ word ∈ words, isIdentifier word = true) :
    ∃ tree : NameTree, tree.text = Text.dotted words ∧
      Spells (Text.dotted words).toList tree.tokens := by
  induction words with
  | nil => exact absurd rfl hne
  | cons word words ih =>
    obtain ⟨hword, hrest⟩ := List.forall_mem_cons.1 hwords
    cases words with
    | nil =>
      rw [Text.dotted, Text.join_singleton]
      exact ⟨.single word, rfl, .word hword⟩
    | cons next words =>
      obtain ⟨tree, htext, hspells⟩ := ih (List.cons_ne_nil _ _) hrest
      have hchars : (Text.dotted (word :: next :: words)).toList
          = word.toList ++ '.' :: (Text.dotted (next :: words)).toList := by
        rw [Text.dotted, Text.toList_join_cons_cons, List.append_assoc]
        rfl
      refine ⟨.qualified word tree, ?_, ?_⟩
      · rw [← String.toList_inj, hchars, NameTree.text, htext]
        simp
      · rw [hchars]
        exact (Spells.word hword).append_mark (by decide) hspells

/-- A declarable name has a proper tree. -/
theorem IsDeclarable.exists_nameTree {name : String} (h : IsDeclarable name) :
    ∃ tree : NameTree, tree.IsProper ∧ tree.text = name ∧ Spells name.toList tree.tokens := by
  obtain ⟨hsegments, hkeyword, hvoid⟩ := h
  obtain ⟨tree, htext, hspells⟩ :=
    JavaType.exists_nameTree (Text.split_ne_nil '.' name) hsegments
  have hname : Text.dotted (Text.split '.' name) = name := Text.dotted_segments name
  rw [hname] at htext hspells
  exact ⟨tree, NameTree.isProper_of_text (htext ▸ hkeyword) (htext ▸ hvoid), htext, hspells⟩

theorem keyword_isIdentifier (kind : Primitive) : isIdentifier kind.keyword = true := by
  cases kind <;> decide +kernel

theorem dimensionTokens_succ (dimensions : Nat) :
    dimensionTokens (dimensions + 1)
      = dimensionTokens dimensions ++ [.mark '[', .mark ']'] := by
  induction dimensions with
  | zero => rfl
  | succ dimensions ih =>
    exact congrArg (fun tokens => Token.mark '[' :: Token.mark ']' :: tokens) ih

theorem HasTypeTree.array {element : JavaType} (h : HasTypeTree element) :
    HasTypeTree (.array element) := by
  obtain ⟨⟨base, dimensions⟩, hproper, rfl, hspells⟩ := h
  refine ⟨.mk base (dimensions + 1), hproper, ?_, ?_⟩
  · rw [TypeTree.type, nest_succ]
    rfl
  · rw [TypeTree.tokens, dimensionTokens_succ, ← List.append_assoc]
    have hchars : (JavaType.array (TypeTree.mk base dimensions).type).text.toList
        = (TypeTree.mk base dimensions).type.text.toList ++ '[' :: [']'] := by
      simp [text_array]
    rw [hchars]
    exact hspells.append_mark (by decide) (Spells.nil.mark (by decide))

theorem HasTypeTree.declared {name : String} {args : List JavaType} (hname : IsDeclarable name)
    (hargs : args ≠ [] → HasArgsTree args) : HasTypeTree (.declared name args) := by
  obtain ⟨nameTree, hproper, rfl, hspells⟩ := hname.exists_nameTree
  by_cases hnone : args = []
  · subst hnone
    refine ⟨.mk (.plain nameTree) 0, hproper, rfl, ?_⟩
    have hchars : (JavaType.declared nameTree.text []).text = nameTree.text := by
      simp [text_declared, angled]
    rw [hchars, TypeTree.tokens, dimensionTokens, List.append_nil]
    exact hspells
  · obtain ⟨argsTree, hargsProper, rfl, hargsSpells⟩ := hargs hnone
    refine ⟨.mk (.generic nameTree argsTree) 0, ⟨hproper, hargsProper⟩, rfl, ?_⟩
    have hchars : (JavaType.declared nameTree.text argsTree.types).text.toList
        = nameTree.text.toList
          ++ '<' :: ((Text.join ", " (argsTree.types.map text)).toList ++ '>' :: []) := by
      cases htypes : argsTree.types with
      | nil => exact absurd htypes hnone
      | cons type types =>
        simp [text_declared, angled]
    rw [hchars, TypeTree.tokens, dimensionTokens, List.append_nil]
    exact hspells.append_mark (by decide) (hargsSpells.append_mark (by decide) Spells.nil)

/-- The bound of a wildcard behind its keyword. -/
theorem spells_bound {keyword : String} {bound : List Char} {tokens : List Token}
    (hkeyword : isIdentifier keyword = true) (hbound : Spells bound tokens) :
    Spells ('?' :: ' ' :: (keyword.toList ++ ' ' :: bound))
      (.mark '?' :: .word keyword :: tokens) :=
  (((Spells.word hkeyword).append (by decide) hbound.blank).blank).mark (by decide)

theorem HasTypeTree.upper {bound : JavaType} (h : HasTypeTree bound) :
    HasArgTree (.wildcardExtends bound) := by
  obtain ⟨tree, hproper, rfl, hspells⟩ := h
  refine ⟨.upper tree, hproper, rfl, ?_⟩
  have hchars : (JavaType.wildcardExtends tree.type).text.toList
      = '?' :: ' ' :: ("extends".toList ++ ' ' :: tree.type.text.toList) := by
    simp [text_wildcardExtends]
  rw [hchars]
  exact spells_bound (by decide) hspells

theorem HasTypeTree.lower {bound : JavaType} (h : HasTypeTree bound) :
    HasArgTree (.wildcardSuper bound) := by
  obtain ⟨tree, hproper, rfl, hspells⟩ := h
  refine ⟨.lower tree, hproper, rfl, ?_⟩
  have hchars : (JavaType.wildcardSuper tree.type).text.toList
      = '?' :: ' ' :: ("super".toList ++ ' ' :: tree.type.text.toList) := by
    simp [text_wildcardSuper]
  rw [hchars]
  exact spells_bound (by decide) hspells

mutual

/-- A printable type has a tree for the place at which it stands. -/
theorem hasTree : ∀ type : JavaType,
    (type.IsPrintableAt .element → HasTypeTree type) ∧
      (type.IsPrintableAt .argument → HasArgTree type)
  | .primitive kind => by
    refine ⟨fun _ => ⟨.mk (.primitive kind) 0, trivial, rfl, ?_⟩, fun h => absurd rfl h⟩
    exact Spells.word (keyword_isIdentifier kind)
  | .void => ⟨fun h => (nomatch h), fun h => (nomatch h)⟩
  | .declared name args => by
    have htree : IsDeclarable name ∧ ArePrintable args → HasTypeTree (.declared name args) :=
      fun h => .declared h.1 (hasArgsTree args h.2)
    exact ⟨htree, fun h => (htree h).argument rfl⟩
  | .array element => by
    have htree : element.IsPrintableAt .element → HasTypeTree (.array element) :=
      fun h => ((hasTree element).1 h).array
    exact ⟨htree, fun h => (htree h).argument rfl⟩
  | .typeVariable name => ⟨False.elim, False.elim⟩
  | .wildcard => by
    refine ⟨fun h => (nomatch h), fun _ => ⟨.any, trivial, rfl, ?_⟩⟩
    exact Spells.nil.mark (by decide)
  | .wildcardExtends bound =>
    ⟨fun h => (nomatch h.1), fun h => ((hasTree bound).1 h.2).upper⟩
  | .wildcardSuper bound =>
    ⟨fun h => (nomatch h.1), fun h => ((hasTree bound).1 h.2).lower⟩

/-- Printable type arguments have a tree. -/
theorem hasArgsTree : ∀ types : List JavaType, ArePrintable types → types ≠ [] → HasArgsTree types
  | [], _, hne => absurd rfl hne
  | [type], h, _ => by
    obtain ⟨tree, hproper, htype, hspells⟩ := (hasTree type).2 h.1
    refine ⟨.single tree, hproper, by rw [ArgsTree.types, htype], ?_⟩
    rw [List.map_singleton, Text.join_singleton]
    exact hspells
  | type :: next :: types, h, _ => by
    obtain ⟨tree, hproper, htype, hspells⟩ := (hasTree type).2 h.1
    obtain ⟨rest, hrestProper, hrestTypes, hrestSpells⟩ :=
      hasArgsTree (next :: types) h.2 (List.cons_ne_nil _ _)
    refine ⟨.cons tree rest, ⟨hproper, hrestProper⟩, by rw [ArgsTree.types, htype, hrestTypes], ?_⟩
    rw [List.map_cons, List.map_cons, Text.toList_join_cons_cons, List.append_assoc]
    exact hspells.append_mark (by decide) hrestSpells.blank

end

/-! ## Whole texts -/

/-- A text is read as a type if it splits into the tokens of a proper tree of that type. -/
theorem parse_eq_ok_iff {text : String} {type : JavaType} :
    parse text = .ok type ↔ ∃ tree : TopTree, tree.IsProper ∧ tree.type = type ∧
      Tokenized text.toList tree.tokens := by
  rw [parse_eq_ok_iff_lexemes, ofLexemes_eq_ok_iff]
  constructor
  · rintro ⟨tree, hproper, htype, htokens⟩
    exact ⟨tree, hproper, htype, tokenized_iff.2 ⟨htokens, tree.tokens_isProper⟩⟩
  · rintro ⟨tree, hproper, htype, htokenized⟩
    exact ⟨tree, hproper, htype, (tokenized_iff.1 htokenized).1⟩

/-- What was read can be printed. -/
theorem isPrintable_of_parse {text : String} {type : JavaType} (h : parse text = .ok type) :
    type.IsPrintable := by
  obtain ⟨tree, hproper, rfl, htokenized⟩ := parse_eq_ok_iff.1 h
  exact TopTree.isPrintable hproper htokenized.isLexical

/-- What can be printed is read back from its text. -/
theorem parse_text_of_isPrintable {type : JavaType} (h : type.IsPrintable) :
    parse type.text = .ok type := by
  have hend : EndsWord [] := fun c hc => nomatch hc
  rcases isPrintable_iff.1 h with rfl | helement
  · refine parse_eq_ok_iff.2 ⟨.void, trivial, rfl, ?_⟩
    have hspells : Spells "void".toList [.word "void"] := .word (by decide)
    exact hspells hend .nil
  · obtain ⟨tree, hproper, htype, hspells⟩ := (hasTree type).1 helement
    refine parse_eq_ok_iff.2 ⟨.value tree, hproper, htype, ?_⟩
    have htokenized := hspells hend .nil
    rw [List.append_nil, List.append_nil] at htokenized
    exact htokenized

/-- A text is read as the type that it is the text of. -/
theorem parse_eq_ok_of_text {type : JavaType} {text : String} (htext : type.text = text)
    (h : type.IsPrintable) : parse text = .ok type := by
  rw [← htext]
  exact parse_text_of_isPrintable h

/-- Printing and reading are inverse to each other. What is read from a text can be printed, and a
type is read back from its own text exactly if it can be printed. So types that can be printed have
different texts, and printing what was read and reading it again changes nothing. -/
theorem parse_text_inverse :
    (∀ text type, parse text = .ok type → type.IsPrintable) ∧
    (∀ type : JavaType, parse type.text = .ok type ↔ type.IsPrintable) ∧
    (∀ a b : JavaType, a.IsPrintable → b.IsPrintable → a.text = b.text → a = b) ∧
    ∀ text type, parse text = .ok type → parse type.text = parse text := by
  refine ⟨fun _ _ => isPrintable_of_parse, ?_, ?_, ?_⟩
  · exact fun type => ⟨isPrintable_of_parse, parse_text_of_isPrintable⟩
  · intro a b ha hb htext
    have hread := parse_text_of_isPrintable ha
    rw [htext, parse_text_of_isPrintable hb] at hread
    exact (Except.ok.inj hread).symm
  · intro text type h
    rw [h]
    exact parse_text_of_isPrintable (isPrintable_of_parse h)

/-- Keywords that are names here: an argument called `extends` and a class `int` of a package. -/
theorem parse_text_of_keywordLike :
    let type : JavaType := .array (.declared "java.util.Map"
      [.named "extends", .wildcardSuper (.array (.declared "a.int" [.wildcard]))])
    type.text = "java.util.Map<extends, ? super a.int<?>[]>[]" ∧ type.IsPrintable ∧
      parse "java.util.Map<extends, ? super a.int<?>[]>[]" = .ok type := by
  intro type
  have htext : type.text = "java.util.Map<extends, ? super a.int<?>[]>[]" := by decide +kernel
  have hprintable : type.IsPrintable := by decide +kernel
  refine ⟨htext, hprintable, ?_⟩
  rw [← htext]
  exact (parse_text_inverse.2.1 type).2 hprintable

end BundleBuilder.JavaType
