import BundleBuilder.JavaType.Names
import BundleBuilder.Proofs.JavaType.Printing

/-!
# Resolved names

The names in a type are resolved against the type parameters in scope, the implicitly imported classes
and the known classes of a package. A type variable is printed like a class of its name, so reading a
printed type back makes it a bare name again (`unbound`). Resolving the names once more then gives the
same type, if no type parameter has a dot in its name (`resolve_unbound`): a name that was completed has
a dot, and nothing is done to names with dots. The printed type can be read back if all its names are
dotted sequences of identifiers (`parse_text_resolve`); a package may be named otherwise. Conversely, if
reading the text of a type and resolving the names gives the type again then all its names are such
sequences (`hasDottedNames_of_parse_text`): resolving never takes dots away, and where it adds none it
changes nothing.
-/

set_option autoImplicit false

namespace BundleBuilder.JavaType

/-- The type with all names resolved that it mentions. -/
def resolve (params : List String) (package : String) (known : List String) (type : JavaType) :
    JavaType :=
  (type.normalize params).qualify package known

mutual

/-- The type with its type variables as bare names. -/
def unbound : JavaType → JavaType
  | .typeVariable name => .declared name []
  | .declared name args => .declared name (unboundAll args)
  | .array element => .array element.unbound
  | .wildcardExtends bound => .wildcardExtends bound.unbound
  | .wildcardSuper bound => .wildcardSuper bound.unbound
  | .primitive kind => .primitive kind
  | .void => .void
  | .wildcard => .wildcard

/-- The types of a list with their type variables as bare names. -/
def unboundAll : List JavaType → List JavaType
  | [] => []
  | type :: types => type.unbound :: unboundAll types

end

mutual

/-- The names of the classes that a type mentions. -/
def classNames : JavaType → List String
  | .declared name args => name :: classNamesAll args
  | .array element => element.classNames
  | .wildcardExtends bound => bound.classNames
  | .wildcardSuper bound => bound.classNames
  | .primitive _ | .void | .typeVariable _ | .wildcard => []

/-- The names of the classes that the types of a list mention. -/
def classNamesAll : List JavaType → List String
  | [] => []
  | type :: types => type.classNames ++ classNamesAll types

end

/-- A name that is a dotted sequence of identifiers. -/
def IsDottedName (name : String) : Prop :=
  ∀ segment ∈ Text.segments name, isIdentifier segment = true

instance (name : String) : Decidable (IsDottedName name) :=
  inferInstanceAs (Decidable (∀ segment ∈ Text.segments name, isIdentifier segment = true))

/-- A type that mentions classes by dotted sequences of identifiers only. -/
def HasDottedNames (type : JavaType) : Prop := ∀ name ∈ type.classNames, IsDottedName name

instance (type : JavaType) : Decidable type.HasDottedNames :=
  inferInstanceAs (Decidable (∀ name ∈ type.classNames, IsDottedName name))

/-! ## Texts -/

mutual

/-- A type variable has the text of a bare name. -/
theorem text_unbound : ∀ type : JavaType, type.unbound.text = type.text
  | .declared name args => by
    rw [unbound, text_declared, text_declared, map_text_unboundAll args]
  | .array element => congrArg (· ++ "[]") (text_unbound element)
  | .wildcardExtends bound => by
    rw [unbound, text_wildcardExtends, text_wildcardExtends, text_unbound bound]
  | .wildcardSuper bound => by
    rw [unbound, text_wildcardSuper, text_wildcardSuper, text_unbound bound]
  | .typeVariable _ | .primitive _ | .void | .wildcard => rfl

theorem map_text_unboundAll : ∀ types : List JavaType,
    (unboundAll types).map text = types.map text
  | [] => rfl
  | type :: types => by
    rw [unboundAll, List.map_cons, List.map_cons, text_unbound type, map_text_unboundAll types]

end

/-! ## Names -/

section Resolve

variable {params : List String} {package : String} {known : List String}

theorem dotless_of_mem_implicitImports {name : String} (h : name ∈ implicitImports) :
    '.' ∉ name.toList := by
  have hall : implicitImports.all (fun name => !name.toList.contains '.') = true := by decide
  simpa using List.all_eq_true.1 hall name h

/-- A name with a dot denotes the class of this name. -/
theorem importImplicitly_of_dot {name : String} (h : '.' ∈ name.toList) :
    importImplicitly name = name := by
  rw [importImplicitly, if_neg]
  intro hmem
  exact dotless_of_mem_implicitImports (List.contains_iff_mem.1 hmem) h

theorem qualifyName_of_dot {name : String} (h : '.' ∈ name.toList) :
    qualifyName package known name = name := by
  have hqualified : Text.isQualified name = true := List.contains_iff_mem.2 h
  simp [qualifyName, hqualified]

/-- A resolved name is the name itself, or it has a dot. -/
theorem resolvedName_cases (package : String) (known : List String) (name : String) :
    qualifyName package known (importImplicitly name) = name ∨
      '.' ∈ (qualifyName package known (importImplicitly name)).toList := by
  by_cases himported : implicitImports.contains name = true
  · -- An implicitly imported class gets a dot, and keeps it.
    have hdot : '.' ∈ ("java.lang." ++ name).toList := by simp
    rw [importImplicitly, if_pos himported, qualifyName_of_dot hdot]
    exact .inr hdot
  · have hname : importImplicitly name = name := by rw [importImplicitly, if_neg himported]
    rw [hname, qualifyName]
    split
    · right
      simp
    · exact .inl rfl

/-- A resolved name is not resolved any further. -/
theorem resolvedName_idem (package : String) (known : List String) (name : String) :
    qualifyName package known
        (importImplicitly (qualifyName package known (importImplicitly name)))
      = qualifyName package known (importImplicitly name) := by
  rcases resolvedName_cases package known name with hsame | hdot
  · rw [hsame]
    exact hsame
  · rw [importImplicitly_of_dot hdot, qualifyName_of_dot hdot]

theorem resolve_declared (name : String) (args : List JavaType) :
    (JavaType.declared name args).resolve params package known
      = if args = [] ∧ name ∈ params then .typeVariable name
        else .declared (qualifyName package known (importImplicitly name))
          (args.map (resolve params package known)) := by
  have hall : ∀ types : List JavaType,
      mapNamesAll (qualifyName package known) (normalizeAll params types)
        = types.map (resolve params package known) := by
    intro types
    induction types with
    | nil => rfl
    | cons type types ih =>
      rw [normalizeAll, mapNamesAll, ih]
      rfl
  rw [resolve, normalize, qualify]
  by_cases h : args = [] ∧ name ∈ params
  · rw [if_pos (by simp [h]), if_pos h, mapNames]
  · rw [if_neg (by simpa using h), if_neg h, mapNames, hall]

theorem unboundAll_map_eq_nil {f : JavaType → JavaType} {types : List JavaType} :
    unboundAll (types.map f) = [] ↔ types = [] := by
  cases types <;> simp [unboundAll]

mutual

/-- Resolving the names of a resolved type again, with its type variables as bare names, gives the same
type. -/
theorem resolve_unbound (hparams : ∀ param ∈ params, '.' ∉ param.toList) :
    ∀ (type : JavaType) {place : Place}, type.IsPrintableAt place →
      (type.resolve params package known).unbound.resolve params package known
        = type.resolve params package known
  | .declared name args, _, h => by
    rw [resolve_declared]
    by_cases hbound : args = [] ∧ name ∈ params
    · rw [if_pos hbound, unbound, resolve_declared, if_pos ⟨rfl, hbound.2⟩]
    · have hfree : ¬ (unboundAll (args.map (resolve params package known)) = [] ∧
          qualifyName package known (importImplicitly name) ∈ params) := by
        rintro ⟨hargs, hmem⟩
        rcases resolvedName_cases package known name with hsame | hdot
        · rw [hsame] at hmem
          exact hbound ⟨unboundAll_map_eq_nil.1 hargs, hmem⟩
        · exact hparams _ hmem hdot
      rw [if_neg hbound, unbound, resolve_declared, if_neg hfree, resolvedName_idem,
        resolve_unboundAll hparams args h.2]
  | .array element, _, h => congrArg JavaType.array (resolve_unbound hparams element h)
  | .wildcardExtends bound, _, h =>
    congrArg JavaType.wildcardExtends (resolve_unbound hparams bound h.2)
  | .wildcardSuper bound, _, h =>
    congrArg JavaType.wildcardSuper (resolve_unbound hparams bound h.2)
  | .typeVariable _, _, h => h.elim
  | .primitive _, _, _ => rfl
  | .void, _, _ => rfl
  | .wildcard, _, _ => rfl

theorem resolve_unboundAll (hparams : ∀ param ∈ params, '.' ∉ param.toList) :
    ∀ types : List JavaType, ArePrintable types →
      (unboundAll (types.map (resolve params package known))).map (resolve params package known)
        = types.map (resolve params package known)
  | [], _ => rfl
  | type :: types, h => by
    rw [List.map_cons, unboundAll, List.map_cons, resolve_unbound hparams type h.1,
      resolve_unboundAll hparams types h.2]

end

/-! ## Reading back -/

/-- A name with a dot is no keyword. -/
theorem isDeclarable_of_dot {name : String} (hdotted : IsDottedName name) (hdot : '.' ∈ name.toList) :
    IsDeclarable name := by
  refine ⟨hdotted, ?_, ?_⟩
  · cases hkeyword : Primitive.ofKeyword? name with
    | none => rfl
    | some kind =>
      rw [keyword_of_ofKeyword? hkeyword] at hdot
      exact absurd hdot (keyword_dotless kind)
  · rintro rfl
    revert hdot
    decide

mutual

/-- What was printable is printable again after its names were resolved to dotted sequences of
identifiers. -/
theorem IsPrintableAt.resolve : ∀ (type : JavaType) {place : Place}, type.IsPrintableAt place →
    (type.resolve params package known).HasDottedNames →
      (type.resolve params package known).unbound.IsPrintableAt place
  | .declared name args, _, h, hdotted => by
    rw [resolve_declared] at hdotted ⊢
    by_cases hbound : args = [] ∧ name ∈ params
    · rw [if_pos hbound]
      exact ⟨h.1, trivial⟩
    · rw [if_neg hbound] at hdotted ⊢
      obtain ⟨hname, hargs⟩ := List.forall_mem_cons.1 hdotted
      refine ⟨?_, ArePrintable.resolve args h.2 hargs⟩
      rcases resolvedName_cases package known name with hsame | hdot
      · rw [hsame]
        exact h.1
      · exact isDeclarable_of_dot hname hdot
  | .array element, _, h, hdotted => IsPrintableAt.resolve element h hdotted
  | .wildcardExtends bound, _, h, hdotted => ⟨h.1, IsPrintableAt.resolve bound h.2 hdotted⟩
  | .wildcardSuper bound, _, h, hdotted => ⟨h.1, IsPrintableAt.resolve bound h.2 hdotted⟩
  | .typeVariable _, _, h, _ => h.elim
  | .primitive _, _, h, _ => h
  | .void, _, h, _ => h
  | .wildcard, _, h, _ => h

theorem ArePrintable.resolve : ∀ types : List JavaType, ArePrintable types →
    (∀ name ∈ classNamesAll (types.map (JavaType.resolve params package known)), IsDottedName name) →
      ArePrintable (unboundAll (types.map (JavaType.resolve params package known)))
  | [], _, _ => trivial
  | type :: types, h, hdotted => by
    rw [List.map_cons, classNamesAll] at hdotted
    obtain ⟨htype, htypes⟩ := List.forall_mem_append.1 hdotted
    exact ⟨IsPrintableAt.resolve type h.1 htype, ArePrintable.resolve types h.2 htypes⟩

end

/-- A resolved type whose names are dotted sequences of identifiers is read back from its text with its
type variables as bare names. -/
theorem parse_text_resolve {type : JavaType} (h : type.IsPrintable)
    (hdotted : (type.resolve params package known).HasDottedNames) :
    parse (type.resolve params package known).text
      = .ok (type.resolve params package known).unbound := by
  rw [← text_unbound]
  exact parse_text_of_isPrintable (IsPrintableAt.resolve type h hdotted)

/-! ## Counting dots -/

/-- The number of dots in a text. -/
def dotCount (text : String) : Nat := text.toList.count '.'

/-- The number of dots in all texts of a list. -/
def dotCountAll : List String → Nat
  | [] => 0
  | text :: texts => dotCount text + dotCountAll texts

theorem dotCount_eq_zero_iff {text : String} : dotCount text = 0 ↔ '.' ∉ text.toList :=
  List.count_eq_zero

/-- The dots of a text are those among its tokens. -/
theorem Tokenized.count_dot {text : List Char} {tokens : List Token} (h : Tokenized text tokens) :
    text.count '.' = tokens.count (.mark '.') := by
  induction h with
  | nil => rfl
  | @space c rest tokens hspace _ ih =>
    have hne : c ≠ '.' := by
      rintro rfl
      revert hspace
      decide
    rw [List.count_cons_of_ne hne, ih]
  | @mark c rest tokens _ _ ih =>
    by_cases hdot : c = '.'
    · subst hdot
      rw [List.count_cons_self, List.count_cons_self, ih]
    · have hne : Token.mark c ≠ .mark '.' := fun heq => hdot (Token.mark.inj heq)
      rw [List.count_cons_of_ne hdot, List.count_cons_of_ne hne, ih]
  | @word start more rest tokens hstart hmore _ _ ih =>
    have hword : isIdentifier (String.ofList (start :: more)) = true := by
      simpa [isIdentifier, hstart] using hmore
    have hdotless := dotless_of_isIdentifier hword
    rw [String.toList_ofList] at hdotless
    have hne : Token.word (String.ofList (start :: more)) ≠ .mark '.' := fun heq => by cases heq
    rw [← List.cons_append, List.count_append, List.count_eq_zero.2 hdotless, Nat.zero_add,
      List.count_cons_of_ne hne, ih]

/-- Reading a text and printing what was read loses no dot and adds none. -/
theorem dotCount_of_parse {text : String} {type : JavaType} (h : parse text = .ok type) :
    dotCount type.text = dotCount text := by
  obtain ⟨tree, -, htype, htokenized⟩ := parse_eq_ok_iff.1 h
  obtain ⟨printed, -, hprinted, hspelled⟩ :=
    parse_eq_ok_iff.1 (parse_text_of_isPrintable (isPrintable_of_parse h))
  -- Both texts have the derivation tree of the same type.
  have hsame : printed = tree :=
    TopTree.eq_of_type_eq hspelled.isDotless htokenized.isDotless (hprinted.trans htype.symm)
  rw [dotCount, dotCount, hspelled.count_dot, htokenized.count_dot, hsame]

theorem dotCount_append (first second : String) :
    dotCount (first ++ second) = dotCount first + dotCount second := by
  simp [dotCount]

theorem dotCount_join (texts : List String) :
    dotCount (Text.join ", " texts) = dotCountAll texts := by
  induction texts with
  | nil => rfl
  | cons text texts ih =>
    cases texts with
    | nil => rw [Text.join_singleton, dotCountAll, dotCountAll, Nat.add_zero]
    | cons next texts =>
      rw [dotCount, Text.toList_join_cons_cons, List.count_append, List.count_append, dotCountAll,
        ← ih]
      rfl

theorem dotCount_angled (texts : List String) : dotCount (angled texts) = dotCountAll texts := by
  cases texts with
  | nil => rfl
  | cons text texts =>
    rw [angled, dotCount_append, dotCount_append, dotCount_join]
    · exact Nat.zero_add _
    · exact List.cons_ne_nil _ _

theorem dotCount_declared (name : String) (args : List JavaType) :
    dotCount (JavaType.declared name args).text = dotCount name + dotCountAll (args.map text) := by
  rw [text_declared, dotCount_append, dotCount_angled]

theorem dotCount_array (element : JavaType) :
    dotCount (JavaType.array element).text = dotCount element.text :=
  dotCount_append element.text "[]"

theorem dotCount_upper (bound : JavaType) :
    dotCount (JavaType.wildcardExtends bound).text = dotCount bound.text := by
  rw [text_wildcardExtends, dotCount_append]
  exact Nat.zero_add _

theorem dotCount_lower (bound : JavaType) :
    dotCount (JavaType.wildcardSuper bound).text = dotCount bound.text := by
  rw [text_wildcardSuper, dotCount_append]
  exact Nat.zero_add _

/-- A resolved name has more dots than the name, or it is the name. -/
theorem dotCount_resolvedName (package : String) (known : List String) (name : String) :
    dotCount name ≤ dotCount (qualifyName package known (importImplicitly name)) ∧
      (dotCount (qualifyName package known (importImplicitly name)) = dotCount name →
        qualifyName package known (importImplicitly name) = name) := by
  rcases resolvedName_cases package known name with hsame | hdot
  · rw [hsame]
    exact ⟨Nat.le_refl _, fun _ => rfl⟩
  · by_cases hname : '.' ∈ name.toList
    · rw [importImplicitly_of_dot hname, qualifyName_of_dot hname]
      exact ⟨Nat.le_refl _, fun _ => rfl⟩
    · have hnone := dotCount_eq_zero_iff.2 hname
      have hsome := mt dotCount_eq_zero_iff.1 (not_not_intro hdot)
      omega

mutual

/-- Resolving the names of a type adds dots, unless all of them stay as they are; then they are dotted
sequences of identifiers, as the names of every type that can be printed. -/
theorem dotCount_resolve : ∀ (type : JavaType) {place : Place}, type.IsPrintableAt place →
    dotCount type.text ≤ dotCount (type.resolve params package known).text ∧
      (dotCount (type.resolve params package known).text = dotCount type.text →
        (type.resolve params package known).HasDottedNames)
  | .declared name args, _, h => by
    rw [resolve_declared]
    by_cases hbound : args = [] ∧ name ∈ params
    · rw [if_pos hbound, hbound.1, dotCount_declared]
      exact ⟨Nat.le_refl _, fun _ => by simp [HasDottedNames, classNames]⟩
    · rw [if_neg hbound, dotCount_declared, dotCount_declared]
      obtain ⟨hname, hsame⟩ := dotCount_resolvedName package known name
      obtain ⟨hargs, hdotted⟩ := dotCount_resolveAll args h.2
      refine ⟨Nat.add_le_add hname hargs, fun heq => List.forall_mem_cons.2 ⟨?_, hdotted ?_⟩⟩
      · rw [hsame (by omega)]
        exact h.1.1
      · omega
  | .array element, _, h => by
    rw [show (JavaType.array element).resolve params package known
      = .array (element.resolve params package known) from rfl, dotCount_array, dotCount_array]
    exact dotCount_resolve element h
  | .wildcardExtends bound, _, h => by
    rw [show (JavaType.wildcardExtends bound).resolve params package known
      = .wildcardExtends (bound.resolve params package known) from rfl, dotCount_upper, dotCount_upper]
    exact dotCount_resolve bound h.2
  | .wildcardSuper bound, _, h => by
    rw [show (JavaType.wildcardSuper bound).resolve params package known
      = .wildcardSuper (bound.resolve params package known) from rfl, dotCount_lower, dotCount_lower]
    exact dotCount_resolve bound h.2
  | .typeVariable _, _, h => h.elim
  | .primitive _, _, _ => ⟨Nat.le_refl _, fun _ _ hname => absurd hname List.not_mem_nil⟩
  | .void, _, _ => ⟨Nat.le_refl _, fun _ _ hname => absurd hname List.not_mem_nil⟩
  | .wildcard, _, _ => ⟨Nat.le_refl _, fun _ _ hname => absurd hname List.not_mem_nil⟩

theorem dotCount_resolveAll : ∀ types : List JavaType, ArePrintable types →
    dotCountAll (types.map text)
        ≤ dotCountAll ((types.map (resolve params package known)).map text) ∧
      (dotCountAll ((types.map (resolve params package known)).map text)
          = dotCountAll (types.map text) →
        ∀ name ∈ classNamesAll (types.map (resolve params package known)), IsDottedName name)
  | [], _ => ⟨Nat.le_refl _, fun _ => by simp [classNamesAll]⟩
  | type :: types, h => by
    obtain ⟨htype, hdotted⟩ := dotCount_resolve type h.1
    obtain ⟨htypes, hrest⟩ := dotCount_resolveAll types h.2
    simp only [List.map_cons, dotCountAll, classNamesAll]
    refine ⟨Nat.add_le_add htype htypes, fun heq => List.forall_mem_append.2 ⟨hdotted ?_, hrest ?_⟩⟩
    · omega
    · omega

end

/-- If reading the text of a type and resolving its names gives the type again, all its names are
dotted sequences of identifiers. -/
theorem hasDottedNames_of_parse_text {type read : JavaType} (hread : parse type.text = .ok read)
    (hresolve : read.resolve params package known = type) : type.HasDottedNames := by
  have hdots := dotCount_of_parse hread
  subst hresolve
  exact (dotCount_resolve read (isPrintable_of_parse hread)).2 hdots.symm

end Resolve

end BundleBuilder.JavaType
