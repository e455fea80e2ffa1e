import BundleBuilder.Proofs.JavaType.Scanning
import BundleBuilder.JavaType.Basic

/-!
# The grammar of types

The derivation trees of the grammar

* a text is `void` or a type;
* a type is a base followed by any number of `[]`;
* a base is a primitive keyword, or a name, or a name with type arguments in angle brackets;
* a name is a sequence of words with dots between them, but neither a primitive keyword nor `void`;
* an argument is `?`, `? extends` a type, `? super` a type, or a type that is not just a primitive

with the tokens that a tree derives and the type that it denotes. The conditions on names and on
arguments are no part of the shape of a tree, so they are stated apart from it. A tree whose words
have no dots is determined by its type (`TopTree.eq_of_type_eq`): the grammar is unambiguous.
-/

set_option autoImplicit false

namespace BundleBuilder.JavaType

/-! ## Trees -/

/-- A dotted name, word by word. -/
inductive NameTree where
  | single (word : String)
  | qualified (word : String) (rest : NameTree)

mutual

/-- A type: a base with array dimensions. -/
inductive TypeTree where
  | mk (base : BaseTree) (dimensions : Nat)

/-- What a type begins with. -/
inductive BaseTree where
  | primitive (kind : Primitive)
  | plain (name : NameTree)
  | generic (name : NameTree) (args : ArgsTree)

/-- A non-empty list of type arguments. -/
inductive ArgsTree where
  | single (arg : ArgTree)
  | cons (arg : ArgTree) (rest : ArgsTree)

/-- A type argument. -/
inductive ArgTree where
  | any
  | upper (bound : TypeTree)
  | lower (bound : TypeTree)
  | exact (tree : TypeTree)

end

/-- A whole text. -/
inductive TopTree where
  | void
  | value (tree : TypeTree)

/-! ## What a tree derives -/

/-- The tokens of a name. -/
def NameTree.tokens : NameTree → List Token
  | .single word => [.word word]
  | .qualified word rest => .word word :: .mark '.' :: rest.tokens

/-- The tokens of array dimensions. -/
def dimensionTokens : Nat → List Token
  | 0 => []
  | dimensions + 1 => .mark '[' :: .mark ']' :: dimensionTokens dimensions

mutual

/-- The tokens of a type. -/
def TypeTree.tokens : TypeTree → List Token
  | .mk base dimensions => base.tokens ++ dimensionTokens dimensions

/-- The tokens of a base. -/
def BaseTree.tokens : BaseTree → List Token
  | .primitive kind => [.word kind.keyword]
  | .plain name => name.tokens
  | .generic name args => name.tokens ++ .mark '<' :: (args.tokens ++ [.mark '>'])

/-- The tokens of type arguments, without the brackets around them. -/
def ArgsTree.tokens : ArgsTree → List Token
  | .single arg => arg.tokens
  | .cons arg rest => arg.tokens ++ .mark ',' :: rest.tokens

/-- The tokens of a type argument. -/
def ArgTree.tokens : ArgTree → List Token
  | .any => [.mark '?']
  | .upper bound => .mark '?' :: .word "extends" :: bound.tokens
  | .lower bound => .mark '?' :: .word "super" :: bound.tokens
  | .exact tree => tree.tokens

end

/-- The tokens of a whole text. -/
def TopTree.tokens : TopTree → List Token
  | .void => [.word "void"]
  | .value tree => tree.tokens

/-! ## What a tree denotes -/

/-- The text of a name. -/
def NameTree.text : NameTree → String
  | .single word => word
  | .qualified word rest => word ++ "." ++ rest.text

/-- A type in the given number of array dimensions. -/
def nest (element : JavaType) : Nat → JavaType
  | 0 => element
  | dimensions + 1 => nest (.array element) dimensions

mutual

/-- The type that a tree denotes. -/
def TypeTree.type : TypeTree → JavaType
  | .mk base dimensions => nest base.type dimensions

/-- The type that a base denotes. -/
def BaseTree.type : BaseTree → JavaType
  | .primitive kind => .primitive kind
  | .plain name => .declared name.text []
  | .generic name args => .declared name.text args.types

/-- The types that type arguments denote. -/
def ArgsTree.types : ArgsTree → List JavaType
  | .single arg => [arg.type]
  | .cons arg rest => arg.type :: rest.types

/-- The type that a type argument denotes. -/
def ArgTree.type : ArgTree → JavaType
  | .any => .wildcard
  | .upper bound => .wildcardExtends bound.type
  | .lower bound => .wildcardSuper bound.type
  | .exact tree => tree.type

end

/-- The type that a whole text denotes. -/
def TopTree.type : TopTree → JavaType
  | .void => .void
  | .value tree => tree.type

/-! ## The side conditions -/

/-- A name is neither a lone primitive keyword nor a lone `void`. -/
def NameTree.IsProper : NameTree → Prop
  | .single word => Primitive.ofKeyword? word = none ∧ word ≠ "void"
  | .qualified _ _ => True

/-- A type that is nothing but a primitive keyword. -/
def TypeTree.IsBarePrimitive : TypeTree → Prop
  | .mk (.primitive _) 0 => True
  | _ => False

mutual

/-- The conditions on names and arguments hold everywhere in a type. -/
def TypeTree.IsProper : TypeTree → Prop
  | .mk base _ => base.IsProper

/-- The conditions hold everywhere in a base. -/
def BaseTree.IsProper : BaseTree → Prop
  | .primitive _ => True
  | .plain name => name.IsProper
  | .generic name args => name.IsProper ∧ args.IsProper

/-- The conditions hold everywhere in type arguments. -/
def ArgsTree.IsProper : ArgsTree → Prop
  | .single arg => arg.IsProper
  | .cons arg rest => arg.IsProper ∧ rest.IsProper

/-- The conditions hold everywhere in a type argument. -/
def ArgTree.IsProper : ArgTree → Prop
  | .any => True
  | .upper bound => bound.IsProper
  | .lower bound => bound.IsProper
  | .exact tree => tree.IsProper ∧ ¬ tree.IsBarePrimitive

end

/-- The conditions hold everywhere in a text. -/
def TopTree.IsProper : TopTree → Prop
  | .void => True
  | .value tree => tree.IsProper

/-! ## Unambiguity -/

/-- Two words with a dot behind them are equal if the texts are. -/
theorem append_dot_inj {a b : String} {rest other : String} (ha : '.' ∉ a.toList)
    (hb : '.' ∉ b.toList) (h : a ++ "." ++ rest = b ++ "." ++ other) : a = b ∧ rest = other := by
  have hlist : a.toList ++ '.' :: rest.toList = b.toList ++ '.' :: other.toList := by
    have hchars := congrArg String.toList h
    simpa using hchars
  have hkeep : ∀ word tail : List Char, '.' ∉ word →
      (word ++ '.' :: tail).takeWhile (· ≠ '.') = word := by
    intro word tail hword
    rw [List.takeWhile_append_of_pos]
    · simp
    · intro c hc
      simp only [ne_eq, decide_not, Bool.not_eq_true', decide_eq_false_iff_not]
      rintro rfl
      exact hword hc
  have hword : a.toList = b.toList := by
    rw [← hkeep _ rest.toList ha, hlist, hkeep _ _ hb]
  rw [hword] at hlist
  have htail := List.append_cancel_left hlist
  exact ⟨String.toList_inj.1 hword, String.toList_inj.1 (List.cons.inj htail).2⟩

/-- A name is determined by its text. -/
theorem NameTree.eq_of_text_eq : ∀ {a b : NameTree},
    (∀ token ∈ a.tokens, token.IsDotless) → (∀ token ∈ b.tokens, token.IsDotless) →
    a.text = b.text → a = b := by
  intro a
  induction a with
  | single word =>
    intro b ha hb htext
    cases b with
    | single other => exact congrArg NameTree.single htext
    | qualified other rest =>
      have hdot : '.' ∈ word.toList := by
        have htext : word = other ++ "." ++ rest.text := htext
        rw [htext]
        simp
      exact absurd hdot (ha (.word word) List.mem_cons_self)
  | qualified word rest ih =>
    intro b ha hb htext
    cases b with
    | single other =>
      have hdot : '.' ∈ other.toList := by
        have htext : word ++ "." ++ rest.text = other := htext
        rw [← htext]
        simp
      exact absurd hdot (hb (.word other) List.mem_cons_self)
    | qualified other more =>
      obtain ⟨rfl, hrest⟩ := append_dot_inj (ha (.word word) List.mem_cons_self)
        (hb (.word other) List.mem_cons_self) htext
      rw [ih (fun token hmem => ha token (by simp [NameTree.tokens, hmem]))
        (fun token hmem => hb token (by simp [NameTree.tokens, hmem])) hrest]

theorem nest_succ (element : JavaType) (dimensions : Nat) :
    nest element (dimensions + 1) = .array (nest element dimensions) := by
  induction dimensions generalizing element with
  | zero => rfl
  | succ dimensions ih => exact ih (.array element)

/-- The dimensions of a type are counted down to what is no array. -/
theorem nest_inj {a b : JavaType} (ha : ∀ element, a ≠ .array element)
    (hb : ∀ element, b ≠ .array element) :
    ∀ {m n : Nat}, nest a m = nest b n → a = b ∧ m = n := by
  intro m
  induction m with
  | zero =>
    intro n h
    cases n with
    | zero => exact ⟨h, rfl⟩
    | succ n =>
      rw [nest_succ] at h
      exact absurd h (ha _)
  | succ m ih =>
    intro n h
    cases n with
    | zero =>
      rw [nest_succ] at h
      exact absurd h.symm (hb _)
    | succ n =>
      rw [nest_succ, nest_succ] at h
      obtain ⟨rfl, rfl⟩ := ih (JavaType.array.inj h)
      exact ⟨rfl, rfl⟩

theorem BaseTree.type_ne_array (base : BaseTree) (element : JavaType) :
    base.type ≠ .array element := by
  cases base <;> simp [BaseTree.type]

/-- A type that a tree denotes is no wildcard. -/
theorem TypeTree.type_ne_wildcard (tree : TypeTree) :
    tree.type ≠ .wildcard ∧ (∀ bound, tree.type ≠ .wildcardExtends bound) ∧
      ∀ bound, tree.type ≠ .wildcardSuper bound := by
  obtain ⟨base, dimensions⟩ := tree
  rw [TypeTree.type]
  cases dimensions with
  | zero => cases base <;> simp [nest, BaseTree.type]
  | succ dimensions => simp [nest_succ]

theorem ArgsTree.types_ne_nil (args : ArgsTree) : args.types ≠ [] := by
  cases args <;> simp [ArgsTree.types]

mutual

/-- A type is derived by one tree only. -/
theorem TypeTree.eq_of_type_eq : ∀ {a b : TypeTree},
    (∀ token ∈ a.tokens, token.IsDotless) → (∀ token ∈ b.tokens, token.IsDotless) →
    a.type = b.type → a = b
  | .mk base dimensions, .mk other more, ha, hb, h => by
    -- A base denotes no array, so the dimensions can be counted.
    obtain ⟨hbase, rfl⟩ := nest_inj base.type_ne_array other.type_ne_array h
    rw [BaseTree.eq_of_type_eq (fun token hmem => ha token (List.mem_append_left _ hmem))
      (fun token hmem => hb token (List.mem_append_left _ hmem)) hbase]

theorem BaseTree.eq_of_type_eq : ∀ {a b : BaseTree},
    (∀ token ∈ a.tokens, token.IsDotless) → (∀ token ∈ b.tokens, token.IsDotless) →
    a.type = b.type → a = b
  | .primitive kind, b, _, _, h => by
    cases b with
    | primitive other => rw [JavaType.primitive.inj h]
    | plain name => cases h
    | generic name args => cases h
  | .plain name, b, ha, hb, h => by
    cases b with
    | primitive other => cases h
    | plain other =>
      obtain ⟨hname, -⟩ := JavaType.declared.inj h
      rw [NameTree.eq_of_text_eq ha hb hname]
    | generic other args =>
      obtain ⟨-, hargs⟩ := JavaType.declared.inj h
      exact absurd hargs.symm args.types_ne_nil
  | .generic name args, b, ha, hb, h => by
    cases b with
    | primitive other => cases h
    | plain other =>
      obtain ⟨-, hargs⟩ := JavaType.declared.inj h
      exact absurd hargs args.types_ne_nil
    | generic other more =>
      obtain ⟨hname, hargs⟩ := JavaType.declared.inj h
      rw [NameTree.eq_of_text_eq (fun token hmem => ha token (List.mem_append_left _ hmem))
          (fun token hmem => hb token (List.mem_append_left _ hmem)) hname,
        ArgsTree.eq_of_types_eq (fun token hmem => ha token (by simp [BaseTree.tokens, hmem]))
          (fun token hmem => hb token (by simp [BaseTree.tokens, hmem])) hargs]

theorem ArgsTree.eq_of_types_eq : ∀ {a b : ArgsTree},
    (∀ token ∈ a.tokens, token.IsDotless) → (∀ token ∈ b.tokens, token.IsDotless) →
    a.types = b.types → a = b
  | .single arg, b, ha, hb, h => by
    cases b with
    | single other =>
      obtain ⟨harg, -⟩ := List.cons.inj h
      rw [ArgTree.eq_of_type_eq ha hb harg]
    | cons other rest =>
      obtain ⟨-, hrest⟩ := List.cons.inj h
      exact absurd hrest.symm rest.types_ne_nil
  | .cons arg rest, b, ha, hb, h => by
    cases b with
    | single other =>
      obtain ⟨-, hrest⟩ := List.cons.inj h
      exact absurd hrest rest.types_ne_nil
    | cons other more =>
      obtain ⟨harg, hrest⟩ := List.cons.inj h
      rw [ArgTree.eq_of_type_eq (fun token hmem => ha token (List.mem_append_left _ hmem))
          (fun token hmem => hb token (List.mem_append_left _ hmem)) harg,
        ArgsTree.eq_of_types_eq (fun token hmem => ha token (by simp [ArgsTree.tokens, hmem]))
          (fun token hmem => hb token (by simp [ArgsTree.tokens, hmem])) hrest]

theorem ArgTree.eq_of_type_eq : ∀ {a b : ArgTree},
    (∀ token ∈ a.tokens, token.IsDotless) → (∀ token ∈ b.tokens, token.IsDotless) →
    a.type = b.type → a = b
  | .any, b, _, _, h => by
    cases b with
    | any => rfl
    | upper bound => cases h
    | lower bound => cases h
    | exact tree => exact absurd h.symm tree.type_ne_wildcard.1
  | .upper bound, b, ha, hb, h => by
    cases b with
    | any => cases h
    | upper other =>
      rw [TypeTree.eq_of_type_eq (fun token hmem => ha token (by simp [ArgTree.tokens, hmem]))
        (fun token hmem => hb token (by simp [ArgTree.tokens, hmem]))
        (JavaType.wildcardExtends.inj h)]
    | lower other => cases h
    | exact tree => exact absurd h.symm (tree.type_ne_wildcard.2.1 _)
  | .lower bound, b, ha, hb, h => by
    cases b with
    | any => cases h
    | upper other => cases h
    | lower other =>
      rw [TypeTree.eq_of_type_eq (fun token hmem => ha token (by simp [ArgTree.tokens, hmem]))
        (fun token hmem => hb token (by simp [ArgTree.tokens, hmem]))
        (JavaType.wildcardSuper.inj h)]
    | exact tree => exact absurd h.symm (tree.type_ne_wildcard.2.2 _)
  | .exact tree, b, ha, hb, h => by
    cases b with
    | any => exact absurd h tree.type_ne_wildcard.1
    | upper other => exact absurd h (tree.type_ne_wildcard.2.1 _)
    | lower other => exact absurd h (tree.type_ne_wildcard.2.2 _)
    | exact other => rw [TypeTree.eq_of_type_eq ha hb h]

end

theorem TypeTree.type_ne_void (tree : TypeTree) : tree.type ≠ .void := by
  obtain ⟨base, dimensions⟩ := tree
  rw [TypeTree.type]
  cases dimensions with
  | zero => cases base <;> simp [nest, BaseTree.type]
  | succ dimensions => simp [nest_succ]

theorem TopTree.eq_of_type_eq {a b : TopTree} (ha : ∀ token ∈ a.tokens, token.IsDotless)
    (hb : ∀ token ∈ b.tokens, token.IsDotless) (h : a.type = b.type) : a = b := by
  cases a with
  | void =>
    cases b with
    | void => rfl
    | value tree => exact absurd h.symm tree.type_ne_void
  | value tree =>
    cases b with
    | void => exact absurd h tree.type_ne_void
    | value other => rw [TypeTree.eq_of_type_eq ha hb h]

/-! ## Derivations of a text -/

theorem NameTree.tokens_isProper (tree : NameTree) : ∀ token ∈ tree.tokens, token.IsProper := by
  induction tree with
  | single word => simp [NameTree.tokens, Token.IsProper]
  | qualified word rest ih =>
    intro token hmem
    rcases List.mem_cons.1 hmem with rfl | hmem
    · trivial
    · rcases List.mem_cons.1 hmem with rfl | hmem
      · simp [Token.IsProper, punctuation]
      · exact ih token hmem

theorem dimensionTokens_isProper (dimensions : Nat) :
    ∀ token ∈ dimensionTokens dimensions, token.IsProper := by
  induction dimensions with
  | zero => simp [dimensionTokens]
  | succ dimensions ih =>
    intro token hmem
    rcases List.mem_cons.1 hmem with rfl | hmem
    · simp [Token.IsProper, punctuation]
    · rcases List.mem_cons.1 hmem with rfl | hmem
      · simp [Token.IsProper, punctuation]
      · exact ih token hmem

mutual

/-- A tree derives tokens of the language only. -/
theorem TypeTree.tokens_isProper : ∀ (tree : TypeTree), ∀ token ∈ tree.tokens, token.IsProper
  | .mk base dimensions => by
    intro token hmem
    rcases List.mem_append.1 hmem with hbase | hdimensions
    · exact base.tokens_isProper token hbase
    · exact dimensionTokens_isProper dimensions token hdimensions

theorem BaseTree.tokens_isProper : ∀ (base : BaseTree), ∀ token ∈ base.tokens, token.IsProper
  | .primitive kind => by simp [BaseTree.tokens, Token.IsProper]
  | .plain name => name.tokens_isProper
  | .generic name args => by
    have hargs := args.tokens_isProper
    have hname := name.tokens_isProper
    intro token hmem
    simp only [BaseTree.tokens, List.mem_append, List.mem_cons, List.not_mem_nil, or_false] at hmem
    rcases hmem with hmem | rfl | hmem | rfl
    · exact hname token hmem
    · simp [Token.IsProper, punctuation]
    · exact hargs token hmem
    · simp [Token.IsProper, punctuation]

theorem ArgsTree.tokens_isProper : ∀ (args : ArgsTree), ∀ token ∈ args.tokens, token.IsProper
  | .single arg => arg.tokens_isProper
  | .cons arg rest => by
    have harg := arg.tokens_isProper
    have hrest := rest.tokens_isProper
    intro token hmem
    simp only [ArgsTree.tokens, List.mem_append, List.mem_cons] at hmem
    rcases hmem with hmem | rfl | hmem
    · exact harg token hmem
    · simp [Token.IsProper, punctuation]
    · exact hrest token hmem

theorem ArgTree.tokens_isProper : ∀ (arg : ArgTree), ∀ token ∈ arg.tokens, token.IsProper
  | .any => by simp [ArgTree.tokens, Token.IsProper, punctuation]
  | .upper bound => by
    have hbound := bound.tokens_isProper
    intro token hmem
    simp only [ArgTree.tokens, List.mem_cons] at hmem
    rcases hmem with rfl | rfl | hmem
    · simp [Token.IsProper, punctuation]
    · trivial
    · exact hbound token hmem
  | .lower bound => by
    have hbound := bound.tokens_isProper
    intro token hmem
    simp only [ArgTree.tokens, List.mem_cons] at hmem
    rcases hmem with rfl | rfl | hmem
    · simp [Token.IsProper, punctuation]
    · trivial
    · exact hbound token hmem
  | .exact tree => tree.tokens_isProper

end

theorem TopTree.tokens_isProper (tree : TopTree) : ∀ token ∈ tree.tokens, token.IsProper := by
  cases tree with
  | void => simp [TopTree.tokens, Token.IsProper]
  | value tree => exact tree.tokens_isProper

/-- A derivation of a text: a tree that meets the conditions and derives the tokens into which the
text splits. -/
structure Derivation (text : String) where
  tree : TopTree
  proper : tree.IsProper
  tokenized : Tokenized text.toList tree.tokens

/-- The type that a derivation gives to its text. -/
def Derivation.type {text : String} (derivation : Derivation text) : JavaType :=
  derivation.tree.type

end BundleBuilder.JavaType
