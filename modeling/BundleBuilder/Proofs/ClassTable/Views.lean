import BundleBuilder.ClassTable.Assignability
import BundleBuilder.Proofs.ClassTable.Reachability
import BundleBuilder.Proofs.JavaType.Substitution

/-!
# Views of plain types

A plain type has no wildcards and names only known classes, each with as many arguments as it has
type parameters. Where all declared supertypes are plain, everything above a plain type is plain
again, as far as its classes are known.

The class that boxes a primitive type is always used without arguments, so it is raw if it is
generic. What lies above a raw type is what lies above the type with arguments, either as it is or
without its arguments (`IsViewOf`). With that tolerance, lying below a type is transitive
(`IsBelow.trans`), and it is what the search together with the comparison of the type arguments
decides (`admitsView_supertypeAs?`), provided that all ways from a type to a class end in one type.
-/

set_option autoImplicit false

namespace BundleBuilder

open Relation

namespace JavaType

theorem erase_erase (type : JavaType) : type.erase.erase = type.erase := by
  cases type <;> rfl

end JavaType

namespace ClassTable

variable {table : ClassTable}

/-! ## Plain types -/

/-- The number of type parameters of a class. -/
def arity? (table : ClassTable) (name : String) : Option Nat :=
  (table.find? name).map fun decl => decl.typeParameters.length

mutual

/-- The type contains neither a wildcard nor `void`, and every class in it is known and has as many
arguments as type parameters. -/
def IsPlain (table : ClassTable) : JavaType → Prop
  | .primitive _ | .typeVariable _ => True
  | .void | .wildcard | .wildcardExtends _ | .wildcardSuper _ => False
  | .array element => IsPlain table element
  | .declared name args => table.arity? name = some args.length ∧ ArePlain table args

/-- All types of a list are plain. -/
def ArePlain (table : ClassTable) : List JavaType → Prop
  | [] => True
  | type :: types => IsPlain table type ∧ ArePlain table types

end

mutual

/-- Decides whether a type is plain. -/
def decideIsPlain (table : ClassTable) : (type : JavaType) → Decidable (table.IsPlain type)
  | .primitive _ | .typeVariable _ => inferInstanceAs (Decidable True)
  | .void | .wildcard | .wildcardExtends _ | .wildcardSuper _ => inferInstanceAs (Decidable False)
  | .array element => decideIsPlain table element
  | .declared name args =>
    have := decideArePlain table args
    inferInstanceAs (Decidable (table.arity? name = some args.length ∧ table.ArePlain args))

/-- Decides whether all types of a list are plain. -/
def decideArePlain (table : ClassTable) : (types : List JavaType) → Decidable (table.ArePlain types)
  | [] => inferInstanceAs (Decidable True)
  | type :: types =>
    have := decideIsPlain table type
    have := decideArePlain table types
    inferInstanceAs (Decidable (table.IsPlain type ∧ table.ArePlain types))

end

instance (table : ClassTable) (type : JavaType) : Decidable (table.IsPlain type) :=
  decideIsPlain table type

theorem IsPlain.element {element : JavaType} (h : table.IsPlain (.array element)) :
    table.IsPlain element := h

theorem arePlain_iff {types : List JavaType} :
    table.ArePlain types ↔ ∀ type ∈ types, table.IsPlain type := by
  induction types with
  | nil => simp [ArePlain]
  | cons type types ih => rw [ArePlain, List.forall_mem_cons, ih]

mutual

/-- Putting plain types for variables leaves a type plain. -/
theorem IsPlain.substitute {bindings : Bindings}
    (hbindings : ∀ name type, bindings.find? name = some type → table.IsPlain type) :
    ∀ type : JavaType, table.IsPlain type → table.IsPlain (type.substitute bindings)
  | .typeVariable name, _ => by
    rw [JavaType.substitute]
    cases hbound : bindings.find? name with
    | none => trivial
    | some type => exact hbindings name type hbound
  | .declared name args, hplain => by
    obtain ⟨harity, hargs⟩ := hplain
    refine ⟨?_, ArePlain.substituteAll hbindings args hargs⟩
    rw [JavaType.substituteAll_eq_map, List.length_map]
    exact harity
  | .array element, hplain => IsPlain.substitute hbindings element hplain
  | .primitive _, _ => trivial
  | .void, hplain | .wildcard, hplain | .wildcardExtends _, hplain | .wildcardSuper _, hplain =>
    hplain.elim

theorem ArePlain.substituteAll {bindings : Bindings}
    (hbindings : ∀ name type, bindings.find? name = some type → table.IsPlain type) :
    ∀ types : List JavaType, table.ArePlain types →
      table.ArePlain (JavaType.substituteAll bindings types)
  | [], _ => trivial
  | type :: types, hplain =>
    ⟨IsPlain.substitute hbindings type hplain.1, ArePlain.substituteAll hbindings types hplain.2⟩

end

/-- The bindings of plain arguments bind to plain types. -/
theorem ArePlain.of_argumentBindings {decl : ClassDecl} {args : List JavaType}
    (hargs : table.ArePlain args) {name : String} {type : JavaType}
    (hbound : (argumentBindings decl args).find? name = some type) : table.IsPlain type :=
  arePlain_iff.1 hargs _ (List.of_mem_zip (Bindings.mem_of_lookupLast hbound)).2

/-! ## Hierarchies -/

/-- The interfaces that every array type implements. -/
def arrayMarkers : List String := ["java.lang.Cloneable", "java.io.Serializable"]

/-- A type from which a question can start: a plain type, or the class that boxes a primitive, which
is used without arguments whatever its type parameters are. -/
inductive IsSource (table : ClassTable) : JavaType → Prop where
  | plain {type : JavaType} : table.IsPlain type → IsSource table type
  | box (kind : Primitive) : IsSource table (.named kind.boxName)

/-- All superclasses and interfaces are plain declared types. -/
def HasPlainSupertypes (table : ClassTable) : Prop :=
  ∀ decl ∈ table.classes, ∀ type ∈ decl.superclass?.toList ++ decl.interfaces,
    type.declaredName?.isSome = true ∧ table.IsPlain type

instance (table : ClassTable) : Decidable table.HasPlainSupertypes :=
  inferInstanceAs (Decidable (∀ decl ∈ table.classes,
    ∀ type ∈ decl.superclass?.toList ++ decl.interfaces,
      type.declaredName?.isSome = true ∧ table.IsPlain type))

/-- Supertypes are plain, nothing lies above the root and the interfaces of arrays, and all ways
from a type to a class end in one type. -/
structure IsHierarchy (table : ClassTable) : Prop where
  supertypes : table.HasPlainSupertypes
  top : ∀ decl ∈ table.classes, decl.name ∈ objectName :: arrayMarkers →
    decl.typeParameters = [] ∧ directSupertypes decl = []
  unique : ∀ type, table.IsSource type → ∀ view other,
    Reaches table type view → Reaches table type other →
      view.declaredName? = other.declaredName? → view = other

/-- What a class declares as a supertype is the root or a plain declared type. -/
theorem HasPlainSupertypes.of_directSupertype (h : table.HasPlainSupertypes) {decl : ClassDecl}
    (hknown : decl ∈ table.classes) {type : JavaType} (hdirect : DirectSupertype decl type) :
    ∃ name args, type = .declared name args ∧
      (type = .named objectName ∨ table.IsPlain type) := by
  have hdeclared : type = .named objectName ∨
      type.declaredName?.isSome = true ∧ table.IsPlain type := by
    cases hdirect with
    | superclass hnamed =>
      exact .inr (h decl hknown _ (List.mem_append_left _ (Option.mem_toList.2 hnamed)))
    | root => exact .inl rfl
    | interface hmem => exact .inr (h decl hknown _ (List.mem_append_right _ hmem))
  rcases hdeclared with rfl | ⟨hsome, hplain⟩
  · exact ⟨objectName, [], rfl, .inl rfl⟩
  · obtain ⟨name, hname⟩ := Option.isSome_iff_exists.1 hsome
    obtain ⟨args, rfl⟩ := JavaType.exists_of_declaredName? hname
    exact ⟨name, args, rfl, .inr hplain⟩

theorem HasPlainSupertypes.noVariableSupertypes (h : table.HasPlainSupertypes) :
    table.NoVariableSupertypes := by
  intro decl hknown type hmem
  obtain ⟨name, args, rfl, -⟩ := h.of_directSupertype hknown (mem_directSupertypes_iff.1 hmem)
  rfl

/-- No step leads on from the root or an interface of arrays. -/
theorem IsHierarchy.not_step_top (h : table.IsHierarchy) {name : String}
    (htop : name ∈ objectName :: arrayMarkers) {args : List JavaType} {upper : JavaType} :
    ¬ SupertypeStep table (.declared name args) upper := by
  intro hstep
  obtain ⟨decl, hfind, hmem⟩ := supertypeStep_iff.1 hstep
  rw [← name_of_find? hfind] at htop
  rw [supertypeStep, (h.top decl (mem_classes_of_find? hfind) htop).2] at hmem
  simp at hmem

/-- The root and the interfaces of arrays are plain without arguments only. -/
theorem IsHierarchy.args_of_top (h : table.IsHierarchy) {name : String}
    (htop : name ∈ objectName :: arrayMarkers) {args : List JavaType}
    (hplain : table.IsPlain (.declared name args)) : args = [] := by
  obtain ⟨decl, hfind, harity⟩ := Option.map_eq_some_iff.1 hplain.1
  rw [← name_of_find? hfind] at htop
  rw [(h.top decl (mem_classes_of_find? hfind) htop).1] at harity
  exact List.length_eq_zero_iff.1 harity.symm

/-! ## What lies above a type -/

/-- A declared type whose arguments are plain, and are missing or as many as the type parameters if
the class is known. -/
inductive IsUsable (table : ClassTable) : JavaType → Prop where
  | mk {name : String} {args : List JavaType} : table.ArePlain args →
      (∀ arity, table.arity? name = some arity → args = [] ∨ args.length = arity) →
      IsUsable table (.declared name args)

theorem IsUsable.named (name : String) : table.IsUsable (.named name) :=
  ⟨trivial, fun _ _ => .inl rfl⟩

theorem IsPlain.isUsable {name : String} {args : List JavaType}
    (h : table.IsPlain (.declared name args)) : table.IsUsable (.declared name args) := by
  refine ⟨h.2, fun arity harity => .inr ?_⟩
  exact Option.some.inj (h.1.symm.trans harity)

theorem IsSource.isUsable {name : String} {args : List JavaType}
    (h : table.IsSource (.declared name args)) : table.IsUsable (.declared name args) := by
  cases h with
  | plain hplain => exact hplain.isUsable
  | box kind => exact .named _

theorem IsSource.element {element : JavaType} (h : table.IsSource (.array element)) :
    table.IsSource element := by
  cases h with
  | plain hplain => exact .plain hplain.element

/-- One step above a usable type is usable. -/
theorem IsUsable.step (h : table.HasPlainSupertypes) {lower upper : JavaType}
    (husable : table.IsUsable lower) (hstep : SupertypeStep table lower upper) :
    table.IsUsable upper := by
  obtain ⟨hargs, harity⟩ := husable
  cases hstep with
  | raw hfind _ hdirect =>
    obtain ⟨name, args, rfl, -⟩ := h.of_directSupertype (mem_classes_of_find? hfind) hdirect
    exact .named name
  | applied hfind _ hdirect =>
    obtain ⟨name, args, rfl, hroot | hplain⟩ :=
      h.of_directSupertype (mem_classes_of_find? hfind) hdirect
    -- The root need not be known, so it is usable but perhaps not plain.
    · rw [hroot]
      exact .named objectName
    · exact (IsPlain.substitute (fun _ _ => hargs.of_argumentBindings) _ hplain).isUsable

theorem IsUsable.reaches (h : table.HasPlainSupertypes) {lower upper : JavaType}
    (husable : table.IsUsable lower) (hreaches : Reaches table lower upper) :
    table.IsUsable upper := by
  induction hreaches with
  | refl => exact husable
  | tail _ hstep ih => exact ih.step h hstep

/-! ## Types with and without their arguments -/

/-- A type stands for another one with its arguments or without them. -/
def IsViewOf (view type : JavaType) : Prop := view = type ∨ view = type.erase

theorem IsViewOf.trans {view middle type : JavaType} (h : IsViewOf view middle)
    (hmiddle : IsViewOf middle type) : IsViewOf view type := by
  rcases h with rfl | rfl
  · exact hmiddle
  · rcases hmiddle with rfl | rfl
    · exact .inr rfl
    · exact .inr (JavaType.erase_erase type)

/-- What lies one step above a type lies above it without its arguments as well, possibly without
its own. -/
theorem IsViewOf.step (h : table.HasPlainSupertypes) {view lower upper : JavaType}
    (hview : IsViewOf view lower) (hstep : SupertypeStep table lower upper) :
    ∃ above, SupertypeStep table view above ∧ IsViewOf above upper := by
  rcases hview with rfl | rfl
  · exact ⟨upper, hstep, .inl rfl⟩
  · cases hstep with
    | raw hfind hgeneric hdirect => exact ⟨_, .raw hfind hgeneric hdirect, .inl rfl⟩
    | @applied name args decl type hfind hargs hdirect =>
      by_cases hgeneric : decl.typeParameters = []
      · have hbindings : argumentBindings decl args = argumentBindings decl [] := by
          rw [argumentBindings, argumentBindings, ClassDecl.typeParameterNames, hgeneric]
          rfl
        rw [hbindings]
        exact ⟨_, .applied hfind (.inr hgeneric) hdirect, .inl rfl⟩
      · obtain ⟨name, typeArgs, rfl, -⟩ := h.of_directSupertype (mem_classes_of_find? hfind) hdirect
        exact ⟨_, .raw hfind hgeneric hdirect, .inr rfl⟩

theorem IsViewOf.reaches (h : table.HasPlainSupertypes) {view lower upper : JavaType}
    (hview : IsViewOf view lower) (hreaches : Reaches table lower upper) :
    ∃ above, Reaches table view above ∧ IsViewOf above upper := by
  induction hreaches with
  | refl => exact ⟨view, .refl, hview⟩
  | tail _ hstep ih =>
    obtain ⟨middle, hmiddle, hviewMiddle⟩ := ih
    obtain ⟨above, hnext, habove⟩ := hviewMiddle.step h hstep
    exact ⟨above, hmiddle.tail hnext, habove⟩

/-- Steps lead from a type to another one, with or without the arguments of the latter. -/
def IsBelow (table : ClassTable) (lower upper : JavaType) : Prop :=
  ∃ view, Reaches table lower view ∧ IsViewOf view upper

theorem IsBelow.trans (h : table.HasPlainSupertypes) {lower middle upper : JavaType}
    (hlower : table.IsBelow lower middle) (hupper : table.IsBelow middle upper) :
    table.IsBelow lower upper := by
  obtain ⟨view, hview, hviewMiddle⟩ := hlower
  obtain ⟨above, habove, haboveUpper⟩ := hupper
  obtain ⟨found, hfound, hfoundAbove⟩ := hviewMiddle.reaches h habove
  exact ⟨found, hview.trans hfound, hfoundAbove.trans haboveUpper⟩

/-- Nothing but the type itself lies above the root or an interface of arrays. -/
theorem IsBelow.eq_top (h : table.IsHierarchy) {name : String}
    (htop : name ∈ objectName :: arrayMarkers) {upper : JavaType} (hplain : table.IsPlain upper)
    (hbelow : table.IsBelow (.named name) upper) : upper = .named name := by
  obtain ⟨view, hreaches, hview⟩ := hbelow
  rcases ReflTransGen.cases_head hreaches with heq | ⟨next, hstep, -⟩
  · rcases hview with rfl | rfl
    · exact heq.symm
    · cases upper with
      | declared other args =>
        obtain ⟨rfl, -⟩ := JavaType.declared.inj heq
        rw [h.args_of_top htop hplain]
        rfl
      | _ => exact heq.symm
  · exact (h.not_step_top htop hstep).elim

/-! ## Comparing the arguments of a view -/

/-- A plain type argument admits itself only. -/
theorem admits_of_isPlain (assignable : JavaType → JavaType → Option Bool) {target : JavaType}
    (hplain : table.IsPlain target) (source : JavaType) :
    admits assignable target source = some (target == source) := by
  cases target with
  | wildcard | wildcardExtends _ | wildcardSuper _ => exact hplain.elim
  | _ => rfl

theorem admitsAll_of_arePlain (assignable : JavaType → JavaType → Option Bool)
    {targets sources : List JavaType} (hplain : table.ArePlain targets)
    (hlength : sources.length = targets.length) :
    admitsAll assignable targets sources = some (decide (targets = sources)) := by
  induction targets generalizing sources with
  | nil =>
    rw [List.length_eq_zero_iff.1 hlength]
    rfl
  | cons target targets ih =>
    cases sources with
    | nil => cases hlength
    | cons source sources =>
      rw [admitsAll, admits_of_isPlain assignable hplain.1]
      by_cases heq : target = source
      · simp only [heq, beq_self_eq_true, List.cons.injEq, true_and]
        exact ih hplain.2 (Nat.succ.inj hlength)
      · simp [heq]

/-- A usable view is admitted exactly if it has the arguments of the target or none. -/
theorem admitsView_of_isUsable (assignable : JavaType → JavaType → Option Bool) {name : String}
    {args targetArgs : List JavaType} (hplain : table.IsPlain (.declared name targetArgs))
    (husable : table.IsUsable (.declared name args)) :
    admitsView assignable targetArgs (some (.declared name args)) =
      some (decide (args = targetArgs ∨ args = [])) := by
  obtain ⟨-, harity⟩ := husable
  rcases harity _ hplain.1 with rfl | hlength
  · simp [admitsView]
  · rw [admitsView]
    by_cases hempty : args = []
    · simp [hempty]
    · have htargets : targetArgs ≠ [] := by
        rintro rfl
        exact hempty (List.length_eq_zero_iff.1 hlength)
      rw [if_neg (by simp [hempty, htargets]), if_pos hlength,
        admitsAll_of_arePlain assignable hplain.2 hlength]
      simp [hempty, eq_comm]

/-- The view of a type as an instance of a class is admitted exactly if steps lead there. -/
theorem admitsView_supertypeAs? (h : table.IsHierarchy)
    (assignable : JavaType → JavaType → Option Bool) {name target : String}
    {args targetArgs : List JavaType} (hsource : table.IsSource (.declared name args))
    (hplain : table.IsPlain (.declared target targetArgs)) :
    ∃ answer, admitsView assignable targetArgs
        (table.supertypeAs? (.declared name args) target) = some answer ∧
      (answer = true ↔ table.IsBelow (.declared name args) (.declared target targetArgs)) := by
  cases hfound : table.supertypeAs? (.declared name args) target with
  | none =>
    refine ⟨false, rfl, iff_of_false Bool.false_ne_true ?_⟩
    rintro ⟨view, hreaches, hview⟩
    have hname : view.declaredName? = some target := by
      rcases hview with rfl | rfl <;> rfl
    obtain ⟨sub, hsub, hways⟩ :=
      Reaches.inheritsFrom h.supertypes.noVariableSupertypes hreaches hname
    obtain rfl := Option.some.inj hsub
    have hsome := supertypeAs?_isSome hways args
    rw [hfound] at hsome
    cases hsome
  | some found =>
    obtain ⟨⟨foundArgs, rfl⟩, hreaches⟩ := reaches_of_supertypeAs? hfound
    have husable := hsource.isUsable.reaches h.supertypes hreaches
    refine ⟨_, admitsView_of_isUsable assignable hplain husable, ?_⟩
    rw [decide_eq_true_iff]
    constructor
    · rintro (rfl | rfl)
      · exact ⟨_, hreaches, .inl rfl⟩
      · exact ⟨_, hreaches, .inr rfl⟩
    -- Any way to the target ends where the search has ended.
    · rintro ⟨view, hways, hview⟩
      rcases hview with rfl | rfl
      · exact .inl (JavaType.declared.inj (h.unique _ hsource _ _ hreaches hways rfl)).2
      · exact .inr (JavaType.declared.inj (h.unique _ hsource _ _ hreaches hways rfl)).2

end ClassTable

end BundleBuilder
