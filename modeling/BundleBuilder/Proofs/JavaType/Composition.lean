import BundleBuilder.Proofs.JavaType.Substitution

/-!
# Composed substitutions

What two substitutions do one after the other, a single one does at once: it gives a variable that the
first bindings replace its type with the second ones put in, and leaves every other variable to the
second ones (`Composes`). The names that the two bind, and the names in the types that they bring in,
may coincide: a substitution replaces the variables of the type that it is given, and what it brings in
stays as it is.

For the type parameters of a class this means that its type arguments can be put in level by level or,
composed beforehand, all at once (`substitute_zip`).
-/

set_option autoImplicit false

namespace BundleBuilder

namespace Bindings

/-- Bindings that do at once what two others do one after the other. -/
def Composes (inner outer both : Bindings) : Prop :=
  ∀ name, both.find? name =
    match inner.find? name with
    | some type => some (type.substitute outer)
    | none => outer.find? name

/-- The second bindings, and over them the first ones with the second ones put in. -/
def andThen (inner outer : Bindings) : Bindings :=
  outer ++ inner.map fun entry => (entry.1, entry.2.substitute outer)

theorem composes_andThen (inner outer : Bindings) : Composes inner outer (inner.andThen outer) := by
  intro name
  rw [find?, find?, andThen, lookupLast_append, lookupLast_map (JavaType.substitute outer)]
  cases lookupLast name inner <;> rfl

end Bindings

namespace JavaType

/-- Bindings that bind no variable of a type leave it as it is. -/
theorem substitute_of_unbound {bindings : Bindings} {type : JavaType}
    (hunbound : ∀ name ∈ type.variableNames, bindings.find? name = none) :
    type.substitute bindings = type := by
  have htwice : (type.substitute bindings).substitute [] = type.substitute [] := by
    apply substitute_substitute
    intro name hname
    rw [substitute, substitute, hunbound name hname]
    rfl
  rwa [substitute_nil, substitute_nil] at htwice

theorem substitute_of_composes {inner outer both : Bindings}
    (hcomposes : Bindings.Composes inner outer both) (type : JavaType) :
    (type.substitute inner).substitute outer = type.substitute both := by
  apply substitute_substitute
  intro name _
  rw [substitute, substitute, hcomposes name]
  cases inner.find? name with
  | some bound => rfl
  | none => rfl

/-- Substitutions along a chain are a single one, with the bindings composed from the first one on. -/
theorem foldl_substitute (chain : List Bindings) (type : JavaType) : ∀ first : Bindings,
    chain.foldl (fun type bindings => type.substitute bindings) (type.substitute first)
      = type.substitute (chain.foldl Bindings.andThen first) := by
  induction chain with
  | nil => exact fun _ => rfl
  | cons bindings chain ih =>
    intro first
    rw [List.foldl_cons, List.foldl_cons,
      substitute_of_composes (Bindings.composes_andThen first bindings), ih]

/-- Type arguments can be substituted in after they were put in for the names of a type, or before. -/
theorem substitute_zip {names : List String} {args : List JavaType}
    (hlength : args.length = names.length) {type : JavaType}
    (hnames : ∀ name ∈ type.variableNames, name ∈ names) (outer : Bindings) :
    (type.substitute (names.zip args)).substitute outer
      = type.substitute (names.zip (args.map (substitute outer))) := by
  apply substitute_substitute
  intro name hname
  -- Every variable of the type has an argument, so none is left for the outer bindings.
  have hkey : name ∈ (names.zip args).map Prod.fst := by
    rw [List.map_fst_zip (Nat.le_of_eq hlength.symm)]
    exact hnames name hname
  obtain ⟨arg, harg⟩ := Bindings.exists_of_mem_keys hkey
  have hbound : Bindings.find? (names.zip args) name = some arg := harg
  rw [substitute, substitute, Bindings.find?_zip_map, hbound]
  rfl

/-- Substitutions compose: two of them one after the other are the one with composed bindings, and a
chain of them is the one with all bindings composed. Where no variable of the type is bound nothing
changes, and the variables of the result are those of the replacements, none of which is replaced
again. Type arguments that are put in for type parameters may therefore be substituted in before. -/
theorem substitutions_compose (type : JavaType) (inner outer : Bindings) :
    (Bindings.Composes inner outer (inner.andThen outer) ∧
      ∀ both, Bindings.Composes inner outer both →
        (type.substitute inner).substitute outer = type.substitute both) ∧
    ((∀ name ∈ type.variableNames, inner.find? name = none) → type.substitute inner = type) ∧
    (type.substitute inner).variableNames
      = type.variableNames.flatMap (fun name =>
          ((inner.find? name).getD (.typeVariable name)).variableNames) ∧
    (∀ chain : List Bindings,
      chain.foldl (fun type bindings => type.substitute bindings) type
        = type.substitute (chain.foldl Bindings.andThen [])) ∧
    ∀ (names : List String) (args : List JavaType), args.length = names.length →
      (∀ name ∈ type.variableNames, name ∈ names) →
        (type.substitute (names.zip args)).substitute outer
          = type.substitute (names.zip (args.map (substitute outer))) := by
  refine ⟨⟨Bindings.composes_andThen inner outer, ?_⟩, ?_, ?_, ?_, ?_⟩
  · intro both hcomposes
    exact substitute_of_composes hcomposes type
  · exact substitute_of_unbound
  · exact variableNames_substitute inner type
  · intro chain
    have hchain := foldl_substitute chain type []
    rwa [substitute_nil] at hchain
  · intro names args hlength hnames
    exact substitute_zip hlength hnames outer

/-- Two variables that change places in one substitution: the array of `Y` that comes in for `X` is left
alone by it, and only the next substitution gives `Y` a type. -/
theorem substitutions_compose_swap :
    let type : JavaType := .declared "Map" [.typeVariable "X", .wildcardSuper (.typeVariable "Y")]
    let inner : Bindings := [("X", .array (.typeVariable "Y")), ("Y", .typeVariable "X")]
    let outer : Bindings := [("Y", .named "Item")]
    let both : Bindings := [("X", .array (.named "Item")), ("Y", .typeVariable "X")]
    Bindings.Composes inner outer both ∧
      (type.substitute inner).variableNames = ["Y", "X"] ∧
      (type.substitute inner).substitute outer
        = .declared "Map" [.array (.named "Item"), .wildcardSuper (.typeVariable "X")] := by
  intro type inner outer both
  have hcomposes : Bindings.Composes inner outer both := by
    intro name
    by_cases hy : name = "Y"
    · subst hy
      rfl
    · by_cases hx : name = "X"
      · subst hx
        rfl
      · have hfree : ∀ first second : JavaType,
            Bindings.find? [("X", first), ("Y", second)] name = none := by
          intro first second
          apply Bindings.lookupLast_eq_none
          simp [hx, hy]
        have hleft : outer.find? name = none := by
          apply Bindings.lookupLast_eq_none
          simp [outer, hy]
        rw [hfree, hfree, hleft]
  obtain ⟨⟨-, hboth⟩, -, hvariables, -⟩ := substitutions_compose type inner outer
  exact ⟨hcomposes, hvariables, hboth both hcomposes⟩

end JavaType

end BundleBuilder
