import BundleBuilder.Proofs.ClassTable.Views
import BundleBuilder.Proofs.JavaType.Composition
import Mathlib.Tactic.MkIffOfInductiveProp

/-!
# Coherent tables

Whether all ways from a type to a class end in one type is a question about infinitely many types.
It suffices to ask it of the classes with their own type parameters as arguments: what lies above a
plain type is what lies above its class, with the arguments put in (`reaches_substitute`). There it
is a matter of listing what lies above each class, which can be evaluated (`IsCoherent`).
-/

set_option autoImplicit false

namespace BundleBuilder

open Relation

theorem Primitive.mem_all (kind : Primitive) : kind ∈ Primitive.all := by
  cases kind <;> decide

namespace ClassTable

variable {table : ClassTable}

/-! ## What lies above a class with its own parameters -/

/-- Every supertype mentions the type parameters of its class only. -/
def MentionsOwnParameters (table : ClassTable) : Prop :=
  ∀ decl ∈ table.classes, ∀ type ∈ directSupertypes decl, ∀ name ∈ type.variableNames,
    name ∈ decl.typeParameterNames

instance (table : ClassTable) : Decidable table.MentionsOwnParameters :=
  inferInstanceAs (Decidable (∀ decl ∈ table.classes, ∀ type ∈ directSupertypes decl,
    ∀ name ∈ type.variableNames, name ∈ decl.typeParameterNames))

/-- A step from a type after a substitution is a step from the type itself, with the substitution
made afterwards. -/
theorem step_substitute (hplain : table.HasPlainSupertypes) (hown : table.MentionsOwnParameters)
    {bindings : Bindings} {type upper : JavaType} (husable : table.IsUsable type)
    (hstep : SupertypeStep table (type.substitute bindings) upper) :
    ∃ above, SupertypeStep table type above ∧ upper = above.substitute bindings := by
  obtain ⟨hargs, harity⟩ := husable
  rename_i name args
  rw [JavaType.substitute, JavaType.substituteAll_eq_map] at hstep
  generalize hmapped : args.map (JavaType.substitute bindings) = mapped at hstep
  cases hstep with
  | raw hfind hgeneric hdirect =>
    rw [List.map_eq_nil_iff] at hmapped
    subst hmapped
    obtain ⟨above, aboveArgs, rfl, -⟩ :=
      hplain.of_directSupertype (mem_classes_of_find? hfind) hdirect
    exact ⟨_, .raw hfind hgeneric hdirect, rfl⟩
  | @applied _ _ decl declared hfind happlied hdirect =>
    subst hmapped
    rw [ne_eq, List.map_eq_nil_iff] at happlied
    -- Every parameter has an argument, because a type without arguments is applied only to a class
    -- without parameters.
    have hknown := mem_classes_of_find? hfind
    have hlength : args.length = decl.typeParameterNames.length := by
      rw [ClassDecl.typeParameterNames, List.length_map]
      rcases harity _ (Option.map_eq_some_iff.2 ⟨decl, hfind, rfl⟩) with rfl | hlength
      · rw [happlied.resolve_left fun hne => hne rfl]
        rfl
      · exact hlength
    refine ⟨_, .applied hfind happlied hdirect, ?_⟩
    have hvariables := hown decl hknown _ (mem_directSupertypes_iff.2 hdirect)
    exact (JavaType.substitute_zip hlength hvariables bindings).symm

/-- What lies above a type after a substitution lies above the type itself, with the substitution
made afterwards. -/
theorem reaches_substitute (hplain : table.HasPlainSupertypes) (hown : table.MentionsOwnParameters)
    {bindings : Bindings} {type upper : JavaType} (husable : table.IsUsable type)
    (hreaches : Reaches table (type.substitute bindings) upper) :
    ∃ above, Reaches table type above ∧ upper = above.substitute bindings := by
  induction hreaches with
  | refl => exact ⟨type, .refl, rfl⟩
  | tail _ hstep ih =>
    obtain ⟨middle, hmiddle, rfl⟩ := ih
    have husable := husable.reaches hplain hmiddle
    obtain ⟨above, hnext, hupper⟩ := step_substitute hplain hown husable hstep
    exact ⟨above, hmiddle.tail hnext, hupper⟩

/-! ## Listing what lies above a class -/

/-- The types one step above a type. -/
def stepsFrom (table : ClassTable) : JavaType → List JavaType
  | .declared name args =>
    match table.find? name with
    | some decl => supertypeStep decl args
    | none => []
  | _ => []

theorem mem_stepsFrom_iff {type upper : JavaType} :
    upper ∈ table.stepsFrom type ↔ SupertypeStep table type upper := by
  cases type with
  | declared name args =>
    rw [supertypeStep_iff, stepsFrom]
    cases hfind : table.find? name with
    | none => simp
    | some decl => simp
  | _ => exact iff_of_false List.not_mem_nil fun hstep => nomatch hstep

/-- The types that at most the given number of steps leads to. -/
def ancestors (table : ClassTable) : Nat → List JavaType → List JavaType
  | 0, types => types
  | steps + 1, types => types ++ ancestors table steps (types.flatMap table.stepsFrom)

/-- What lies above a class, if there are no more steps than classes. -/
def lineage (table : ClassTable) (decl : ClassDecl) : List JavaType :=
  table.ancestors table.size [decl.selfType]

theorem selfType_mem_lineage (table : ClassTable) (decl : ClassDecl) :
    decl.selfType ∈ table.lineage decl := by
  rw [lineage]
  cases table.size with
  | zero => exact List.mem_cons_self
  | succ steps => exact List.mem_append_left _ List.mem_cons_self

/-- A table whose classes, each with its own parameters as arguments, have supertypes that do not
contradict each other. The boxed primitives are classes without parameters. -/
@[mk_iff]
structure IsCoherent (table : ClassTable) : Prop where
  supertypes : table.HasPlainSupertypes
  own : table.MentionsOwnParameters
  distinct : ∀ decl ∈ table.classes, decl.typeParameterNames.Nodup
  top : ∀ decl ∈ table.classes, decl.name ∈ objectName :: arrayMarkers →
    decl.typeParameters = [] ∧ directSupertypes decl = []
  boxes : ∀ kind ∈ Primitive.all, table.IsPlain (.named kind.boxName)
  closed : ∀ decl ∈ table.classes, ∀ type ∈ table.lineage decl, ∀ upper ∈ table.stepsFrom type,
    upper ∈ table.lineage decl
  agree : ∀ decl ∈ table.classes, ∀ type ∈ table.lineage decl, ∀ other ∈ table.lineage decl,
    type.declaredName? = other.declaredName? → type = other

instance (table : ClassTable) : Decidable table.IsCoherent :=
  decidable_of_iff' _ (isCoherent_iff table)

/-- Everything above a class is in its lineage. -/
theorem IsCoherent.mem_lineage (h : table.IsCoherent) {decl : ClassDecl}
    (hknown : decl ∈ table.classes) {upper : JavaType}
    (hreaches : Reaches table decl.selfType upper) : upper ∈ table.lineage decl := by
  induction hreaches with
  | refl => exact selfType_mem_lineage table decl
  | tail _ hstep ih => exact h.closed decl hknown _ ih _ (mem_stepsFrom_iff.2 hstep)

/-- A class with its own parameters as arguments is a plain type. -/
theorem isPlain_selfType {decl : ClassDecl} (hfind : table.find? decl.name = some decl) :
    table.IsPlain decl.selfType := by
  refine ⟨?_, arePlain_iff.2 fun type hmem => ?_⟩
  · rw [arity?, hfind, List.length_map, ClassDecl.typeParameterNames, List.length_map]
    rfl
  · obtain ⟨name, -, rfl⟩ := List.mem_map.1 hmem
    trivial

/-- The name of a type above a class does not change when arguments are put in. -/
theorem declaredName?_substitute_of_reaches (hplain : table.HasPlainSupertypes)
    {lower upper : JavaType} (husable : table.IsUsable lower)
    (hreaches : Reaches table lower upper) (bindings : Bindings) :
    (upper.substitute bindings).declaredName? = upper.declaredName? := by
  obtain ⟨-, -⟩ := husable.reaches hplain hreaches
  rfl

/-- All ways from a plain type to a class of a coherent table end in one type. -/
theorem IsCoherent.eq_of_reaches (h : table.IsCoherent) {name : String} {args : List JavaType}
    (hplain : table.IsPlain (.declared name args)) {view other : JavaType}
    (hview : Reaches table (.declared name args) view)
    (hother : Reaches table (.declared name args) other)
    (hnames : view.declaredName? = other.declaredName?) : view = other := by
  obtain ⟨decl, hfind, harity⟩ := Option.map_eq_some_iff.1 hplain.1
  have hknown := mem_classes_of_find? hfind
  obtain rfl : decl.name = name := name_of_find? hfind
  have hself : table.IsUsable decl.selfType := (isPlain_selfType hfind).isUsable
  have hlength : args.length = decl.typeParameterNames.length := by
    rw [ClassDecl.typeParameterNames, List.length_map, harity]
  -- The type is its class with the own parameters replaced, and so is all that lies above it.
  have htype : JavaType.declared decl.name args =
      decl.selfType.substitute (argumentBindings decl args) := by
    rw [ClassDecl.selfType, JavaType.substitute, JavaType.substituteAll_eq_map, List.map_map]
    exact congrArg _ (JavaType.map_substitute_zip (h.distinct decl hknown) hlength).symm
  rw [htype] at hview hother
  obtain ⟨above, habove, rfl⟩ := reaches_substitute h.supertypes h.own hself hview
  obtain ⟨second, hsecond, rfl⟩ := reaches_substitute h.supertypes h.own hself hother
  rw [declaredName?_substitute_of_reaches h.supertypes hself habove,
    declaredName?_substitute_of_reaches h.supertypes hself hsecond] at hnames
  have heq := h.agree decl hknown above (h.mem_lineage hknown habove) second
    (h.mem_lineage hknown hsecond) hnames
  rw [heq]

/-- No step leads on from a type that is not declared. -/
theorem eq_of_reaches_of_declaredName? {type upper : JavaType} (htype : type.declaredName? = none)
    (hreaches : Reaches table type upper) : upper = type := by
  rcases ReflTransGen.cases_head hreaches with heq | ⟨_, hstep, -⟩
  · exact heq.symm
  · cases hstep <;> cases htype

/-- A coherent table is a hierarchy. -/
theorem IsCoherent.isHierarchy (h : table.IsCoherent) : table.IsHierarchy where
  supertypes := h.supertypes
  top := h.top
  unique := by
    intro type hsource view other hview hother hnames
    have hplain : table.IsPlain type := by
      cases hsource with
      | plain hplain => exact hplain
      | box kind => exact h.boxes kind (Primitive.mem_all kind)
    cases type with
    | declared name args => exact h.eq_of_reaches hplain hview hother hnames
    | _ =>
      rw [eq_of_reaches_of_declaredName? rfl hview, eq_of_reaches_of_declaredName? rfl hother]

end ClassTable

end BundleBuilder
