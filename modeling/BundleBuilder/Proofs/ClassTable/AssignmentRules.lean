import BundleBuilder.Proofs.ClassTable.Answers
import BundleBuilder.Proofs.ClassTable.Views

/-!
# The rules of assignability on plain types

Between plain types assignability is a relation with nine rules (`Assigns`). One round of the search
for an answer takes the place of one rule, or finds that none applies (`round_of_isPlain`). So every
answer is right by the rules, to whatever depth they were followed (`assignableWithin_correct`). It
is given as soon as the depth exceeds the size of the target, with some rounds for each level of it
(`assignableWithin_isSome`): from a variable the rules go on to its bounds, which do not lead back,
and from an array into its elements, where the target becomes smaller.
-/

set_option autoImplicit false

namespace BundleBuilder

open Relation Table

theorem JavaType.size_pos (type : JavaType) : 0 < type.size := by
  cases type <;> simp [size]

namespace ClassTable

variable {table : ClassTable} {bounds : TypeBounds}

theorem isObject_iff {type : JavaType} : isObject type = true ↔ type = .named objectName :=
  beq_iff_eq

/-! ## The rules -/

/-- The rules of assignability between plain types. -/
inductive Assigns (table : ClassTable) (bounds : TypeBounds) : JavaType → JavaType → Prop where
  | primitive (kind : Primitive) : Assigns table bounds (.primitive kind) (.primitive kind)
  | boxed {kind : Primitive} {target : JavaType} : target.isPrimitive = false →
      Assigns table bounds (.named kind.boxName) target →
      Assigns table bounds (.primitive kind) target
  | object {source : JavaType} : source.isPrimitive = false →
      Assigns table bounds source (.named objectName)
  | sameVariable (name : String) : Assigns table bounds (.typeVariable name) (.typeVariable name)
  | bound {name : String} {uppers : List JavaType} {upper target : JavaType} :
      bounds.find? name = some uppers → upper ∈ uppers → target.isPrimitive = false →
      Assigns table bounds upper target → Assigns table bounds (.typeVariable name) target
  | primitives (kind : Primitive) :
      Assigns table bounds (.array (.primitive kind)) (.array (.primitive kind))
  | elements {source target : JavaType} : source.isPrimitive = false → target.isPrimitive = false →
      Assigns table bounds source target → Assigns table bounds (.array source) (.array target)
  | marker {name : String} (element : JavaType) : name ∈ arrayMarkers →
      Assigns table bounds (.array element) (.named name)
  | view {name target : String} {args targetArgs : List JavaType} :
      table.IsBelow (.declared name args) (.declared target targetArgs) →
      Assigns table bounds (.declared name args) (.declared target targetArgs)

/-! ## One round -/

/-- What one round of the search for an answer does with a question about plain types: it answers,
or hands on to `ask` what the answer depends on. -/
inductive Round (table : ClassTable) (bounds : TypeBounds)
    (ask : JavaType → JavaType → Option Bool) : JavaType → JavaType → Option Bool → Prop where
  | primitive (kind other : Primitive) :
      Round table bounds ask (.primitive kind) (.primitive other) (some (kind == other))
  | boxed {kind : Primitive} {target : JavaType} : target.isPrimitive = false →
      Round table bounds ask (.primitive kind) target (ask (.named kind.boxName) target)
  | unboxed {source : JavaType} {kind : Primitive} : source.isPrimitive = false →
      Round table bounds ask source (.primitive kind) (some false)
  | object {source : JavaType} : source.isPrimitive = false →
      Round table bounds ask source (.named objectName) (some true)
  | sameVariable (name : String) :
      Round table bounds ask (.typeVariable name) (.typeVariable name) (some true)
  | bounds {name : String} {target : JavaType} : target.isPrimitive = false →
      target ≠ .named objectName → target ≠ .typeVariable name →
      Round table bounds ask (.typeVariable name) target
        (anyAssignable ask target ((bounds.find? name).getD []))
  | notVariable {source : JavaType} {name : String} : source.isPrimitive = false →
      source.isTypeVariable = false →
      Round table bounds ask source (.typeVariable name) (some false)
  | primitives (kind other : Primitive) :
      Round table bounds ask (.array (.primitive kind)) (.array (.primitive other))
        (some (kind == other))
  | mixed {source target : JavaType} : source.isPrimitive ≠ target.isPrimitive →
      Round table bounds ask (.array source) (.array target) (some false)
  | elements {source target : JavaType} : source.isPrimitive = false → target.isPrimitive = false →
      Round table bounds ask (.array source) (.array target) (ask source target)
  | marker {name : String} (element : JavaType) : name ∈ arrayMarkers →
      Round table bounds ask (.array element) (.named name) (some true)
  | notMarker {name : String} {args : List JavaType} (element : JavaType) : name ≠ objectName →
      name ∉ arrayMarkers →
      Round table bounds ask (.array element) (.declared name args) (some false)
  | view {name target : String} {args targetArgs : List JavaType} : target ≠ objectName →
      Round table bounds ask (.declared name args) (.declared target targetArgs)
        (admitsView ask targetArgs (table.supertypeAs? (.declared name args) target))
  | notArray {name : String} {args : List JavaType} {element : JavaType} :
      Round table bounds ask (.declared name args) (.array element) (some false)

theorem round_of_variable (name : String) {target : JavaType} (hplain : table.IsPlain target)
    (depth : Nat) :
    Round table bounds (assignableWithin table bounds depth) (.typeVariable name) target
      (assignableWithin table bounds (depth + 1) (.typeVariable name) target) := by
  by_cases hprimitive : target.isPrimitive = true
  · cases target with
    | primitive kind => exact .unboxed rfl
    | _ => cases hprimitive
  · have hanswer : assignableWithin table bounds (depth + 1) (.typeVariable name) target =
        if isObject target || target == .typeVariable name then some true
        else anyAssignable (assignableWithin table bounds depth) target
          ((bounds.find? name).getD []) := by
      cases target with
      | primitive kind => exact absurd rfl hprimitive
      | void | wildcard | wildcardExtends _ | wildcardSuper _ => exact hplain.elim
      | _ => rfl
    rw [hanswer]
    split
    · next hshort =>
      rcases Bool.or_eq_true_iff.1 hshort with hobject | hsame
      · rw [isObject_iff.1 hobject]
        exact .object rfl
      · rw [beq_iff_eq.1 hsame]
        exact .sameVariable name
    · next hlong =>
      rw [Bool.not_eq_true, Bool.or_eq_false_iff] at hlong
      refine .bounds (Bool.eq_false_iff.2 hprimitive) ?_ (beq_eq_false_iff_ne.1 hlong.2)
      exact beq_eq_false_iff_ne.1 hlong.1

theorem round_of_array (h : table.IsHierarchy) (element : JavaType) {target : JavaType}
    (hplain : table.IsPlain target) (depth : Nat) :
    Round table bounds (assignableWithin table bounds depth) (.array element) target
      (assignableWithin table bounds (depth + 1) (.array element) target) := by
  cases target with
  | void | wildcard | wildcardExtends _ | wildcardSuper _ => exact hplain.elim
  | primitive kind => exact .unboxed rfl
  | typeVariable name => exact .notVariable rfl rfl
  | array other =>
    cases element with
    | primitive kind =>
      cases other with
      | primitive otherKind => exact .primitives kind otherKind
      | _ => exact .mixed Bool.false_ne_true.symm
    | _ =>
      cases other with
      | primitive otherKind => exact .mixed Bool.false_ne_true
      | _ => exact .elements rfl rfl
  -- Among the plain types with the name of the root or of an interface of arrays there are only
  -- those without arguments, so the names decide.
  | declared name args =>
    have hanswer : assignableWithin table bounds (depth + 1) (.array element)
          (.declared name args) =
        some (isObject (.declared name args) || (args.isEmpty &&
          (name == "java.lang.Cloneable" || name == "java.io.Serializable"))) := rfl
    rw [hanswer]
    by_cases hmarker : name ∈ objectName :: arrayMarkers
    · obtain rfl := h.args_of_top hmarker hplain
      rcases List.mem_cons.1 hmarker with rfl | hmarker
      · exact .object rfl
      · have hnames : (name == "java.lang.Cloneable" || name == "java.io.Serializable") = true := by
          simpa [arrayMarkers] using hmarker
        rw [hnames, List.isEmpty_nil, Bool.and_self, Bool.or_true]
        exact .marker element hmarker
    · rw [List.mem_cons, not_or] at hmarker
      have hobject : isObject (.declared name args) = false := by
        rw [Bool.eq_false_iff, ne_eq, isObject_iff]
        rintro heq
        exact hmarker.1 (JavaType.declared.inj heq).1
      have hnames : (name == "java.lang.Cloneable" || name == "java.io.Serializable") = false := by
        simpa [arrayMarkers] using hmarker.2
      rw [hobject, hnames, Bool.and_false, Bool.or_false]
      exact .notMarker element hmarker.1 hmarker.2

theorem round_of_declared (h : table.IsHierarchy) (name : String) (args : List JavaType)
    {target : JavaType} (hplain : table.IsPlain target) (depth : Nat) :
    Round table bounds (assignableWithin table bounds depth) (.declared name args) target
      (assignableWithin table bounds (depth + 1) (.declared name args) target) := by
  cases target with
  | void | wildcard | wildcardExtends _ | wildcardSuper _ => exact hplain.elim
  | primitive kind => exact .unboxed rfl
  | typeVariable other => exact .notVariable rfl rfl
  | array element => exact .notArray
  | declared other otherArgs =>
    have hanswer : assignableWithin table bounds (depth + 1) (.declared name args)
          (.declared other otherArgs) =
        if isObject (.declared other otherArgs) then some true
        else admitsView (assignableWithin table bounds depth) otherArgs
          (table.supertypeAs? (.declared name args) other) := rfl
    rw [hanswer]
    by_cases hobject : other = objectName
    · subst hobject
      obtain rfl := h.args_of_top List.mem_cons_self hplain
      exact .object rfl
    · have hnotObject : isObject (.declared other otherArgs) = false := by
        rw [Bool.eq_false_iff, ne_eq, isObject_iff]
        exact fun heq => hobject (JavaType.declared.inj heq).1
      rw [hnotObject]
      exact .view hobject

variable (bounds) in
/-- Every question about plain types takes one of the rounds. -/
theorem round_of_isPlain (h : table.IsHierarchy) {source target : JavaType}
    (hsource : table.IsSource source) (hplain : table.IsPlain target) (depth : Nat) :
    Round table bounds (assignableWithin table bounds depth) source target
      (assignableWithin table bounds (depth + 1) source target) := by
  cases source with
  | typeVariable name => exact round_of_variable name hplain depth
  | array element => exact round_of_array h element hplain depth
  | declared name args => exact round_of_declared h name args hplain depth
  | primitive kind =>
    cases target with
    | void | wildcard | wildcardExtends _ | wildcardSuper _ => exact hplain.elim
    | primitive other => exact .primitive kind other
    | _ => exact .boxed rfl
  | _ =>
    cases hsource with
    | plain hsource => exact hsource.elim

/-! ## Which rule applies -/

/-- Nothing but a primitive is assigned to a primitive. -/
theorem Assigns.isPrimitive_target {source target : JavaType}
    (h : Assigns table bounds source target) (hsource : source.isPrimitive = false) :
    target.isPrimitive = false := by
  cases h with
  | primitive => cases hsource
  | boxed htarget => exact htarget
  | bound _ _ htarget => exact htarget
  | _ => rfl

theorem assigns_primitive_iff {kind other : Primitive} :
    Assigns table bounds (.primitive kind) (.primitive other) ↔ kind = other := by
  constructor
  · intro h
    cases h with
    | primitive => rfl
    | boxed htarget => cases htarget
  · rintro rfl
    exact .primitive kind

theorem assigns_boxed_iff {kind : Primitive} {target : JavaType}
    (htarget : target.isPrimitive = false) :
    Assigns table bounds (.primitive kind) target ↔
      Assigns table bounds (.named kind.boxName) target := by
  constructor
  · intro h
    cases h with
    | primitive => cases htarget
    | boxed _ hboxed => exact hboxed
    | object hsource => cases hsource
  · exact .boxed htarget

theorem mem_uppers_iff {name : String} {upper : JavaType} :
    upper ∈ (bounds.find? name).getD [] ↔
      ∃ uppers, bounds.find? name = some uppers ∧ upper ∈ uppers := by
  cases bounds.find? name with
  | none => simp
  | some uppers => simp

theorem assigns_bound_iff {name : String} {target : JavaType}
    (htarget : target.isPrimitive = false) (hobject : target ≠ .named objectName)
    (hother : target ≠ .typeVariable name) :
    Assigns table bounds (.typeVariable name) target ↔
      ∃ upper ∈ (bounds.find? name).getD [], Assigns table bounds upper target := by
  constructor
  · intro h
    cases h with
    | object => exact absurd rfl hobject
    | sameVariable => exact absurd rfl hother
    | bound huppers hmem _ hupper => exact ⟨_, mem_uppers_iff.2 ⟨_, huppers, hmem⟩, hupper⟩
  · rintro ⟨upper, hmem, hupper⟩
    obtain ⟨uppers, huppers, hmem⟩ := mem_uppers_iff.1 hmem
    exact .bound huppers hmem htarget hupper

theorem not_assigns_variable {source : JavaType} {name : String}
    (hsource : source.isPrimitive = false) (hvariable : source.isTypeVariable = false) :
    ¬ Assigns table bounds source (.typeVariable name) := by
  intro h
  cases h with
  | boxed => cases hsource
  | sameVariable => cases hvariable
  | bound => cases hvariable

theorem assigns_primitives_iff {kind other : Primitive} :
    Assigns table bounds (.array (.primitive kind)) (.array (.primitive other)) ↔
      kind = other := by
  constructor
  · intro h
    cases h with
    | primitives => rfl
    | elements hsource => cases hsource
  · rintro rfl
    exact .primitives kind

theorem not_assigns_mixed {source target : JavaType}
    (hmixed : source.isPrimitive ≠ target.isPrimitive) :
    ¬ Assigns table bounds (.array source) (.array target) := by
  intro h
  cases h with
  | primitives => exact hmixed rfl
  | elements hsource htarget => exact hmixed (hsource.trans htarget.symm)

theorem assigns_elements_iff {source target : JavaType} (hsource : source.isPrimitive = false)
    (htarget : target.isPrimitive = false) :
    Assigns table bounds (.array source) (.array target) ↔ Assigns table bounds source target := by
  constructor
  · intro h
    cases h with
    | primitives => cases hsource
    | elements _ _ helements => exact helements
  · exact .elements hsource htarget

theorem not_assigns_class {element : JavaType} {name : String} {args : List JavaType}
    (hobject : name ≠ objectName) (hmarker : name ∉ arrayMarkers) :
    ¬ Assigns table bounds (.array element) (.declared name args) := by
  intro h
  cases h with
  | object => exact hobject rfl
  | marker _ hname => exact hmarker hname

theorem assigns_view_iff {name target : String} {args targetArgs : List JavaType}
    (htarget : target ≠ objectName) :
    Assigns table bounds (.declared name args) (.declared target targetArgs) ↔
      table.IsBelow (.declared name args) (.declared target targetArgs) := by
  constructor
  · intro h
    cases h with
    | object => exact absurd rfl htarget
    | view hbelow => exact hbelow
  · exact .view

/-! ## Answers are right -/

/-- A list answers right if its members do. -/
theorem anyAssignable_correct {ask : JavaType → JavaType → Option Bool} {holds : JavaType → Prop}
    {target : JavaType} {sources : List JavaType}
    (hask : ∀ source ∈ sources, ∀ answer, ask source target = some answer →
      (answer = true ↔ holds source))
    {answer : Bool} (h : anyAssignable ask target sources = some answer) :
    answer = true ↔ ∃ source ∈ sources, holds source := by
  induction sources with
  | nil => simp [← Option.some.inj h]
  | cons source sources ih =>
    obtain ⟨hfirst, hrest⟩ := List.forall_mem_cons.1 hask
    simp only [List.mem_cons, exists_eq_or_imp]
    rw [anyAssignable] at h
    cases hanswer : ask source target with
    | none =>
      rw [hanswer] at h
      cases h
    | some first =>
      rw [hanswer] at h
      cases first with
      | false =>
        have hnot : ¬ holds source := fun hholds =>
          Bool.false_ne_true ((hfirst false hanswer).2 hholds)
        rw [ih hrest h]
        exact (or_iff_right hnot).symm
      | true =>
        rw [← Option.some.inj h]
        exact iff_of_true rfl (.inl ((hfirst true hanswer).1 rfl))

/-- Another type variable is a bound of a type variable. -/
def BoundedBy (bounds : TypeBounds) (name other : String) : Prop :=
  ∃ uppers, bounds.find? name = some uppers ∧ .typeVariable other ∈ uppers

/-- All bounds are plain, and the bounds that are type variables form no cycle. -/
structure IsGrounded (table : ClassTable) (bounds : TypeBounds) : Prop where
  plain : ∀ name uppers, bounds.find? name = some uppers → table.ArePlain uppers
  acyclic : ∀ name, ¬ TransGen (BoundedBy bounds) name name

theorem IsGrounded.isSource (h : IsGrounded table bounds) {name : String} {upper : JavaType}
    (hmem : upper ∈ (bounds.find? name).getD []) : table.IsSource upper := by
  obtain ⟨uppers, huppers, hmem⟩ := mem_uppers_iff.1 hmem
  exact .plain (arePlain_iff.1 (h.plain name uppers huppers) upper hmem)

/-- A round answers right if the questions that it hands on are answered right. -/
theorem Round.correct (h : table.IsHierarchy) (hbounds : IsGrounded table bounds)
    {ask : JavaType → JavaType → Option Bool}
    (hask : ∀ source target, table.IsSource source → table.IsPlain target →
      ∀ answer, ask source target = some answer →
        (answer = true ↔ Assigns table bounds source target))
    {source target : JavaType} (hsource : table.IsSource source) (hplain : table.IsPlain target)
    {result : Option Bool} (hround : Round table bounds ask source target result) {answer : Bool}
    (hanswer : result = some answer) : answer = true ↔ Assigns table bounds source target := by
  cases hround with
  | primitive kind other => rw [← Option.some.inj hanswer, beq_iff_eq, assigns_primitive_iff]
  | boxed htarget =>
    rw [assigns_boxed_iff htarget]
    exact hask _ _ (.box _) hplain _ hanswer
  | unboxed hsourceRef =>
    rw [← Option.some.inj hanswer]
    refine iff_of_false Bool.false_ne_true fun hassigns => ?_
    exact Bool.false_ne_true (hassigns.isPrimitive_target hsourceRef).symm
  | object hsourceRef =>
    rw [← Option.some.inj hanswer]
    exact iff_of_true rfl (.object hsourceRef)
  | sameVariable name =>
    rw [← Option.some.inj hanswer]
    exact iff_of_true rfl (.sameVariable name)
  | bounds htarget hobject hother =>
    rw [assigns_bound_iff htarget hobject hother]
    refine anyAssignable_correct (fun upper hupper => ?_) hanswer
    exact hask upper target (hbounds.isSource hupper) hplain
  | notVariable hsourceRef hvariable =>
    rw [← Option.some.inj hanswer]
    exact iff_of_false Bool.false_ne_true (not_assigns_variable hsourceRef hvariable)
  | primitives kind other => rw [← Option.some.inj hanswer, beq_iff_eq, assigns_primitives_iff]
  | mixed hmixed =>
    rw [← Option.some.inj hanswer]
    exact iff_of_false Bool.false_ne_true (not_assigns_mixed hmixed)
  | elements hsourceRef htargetRef =>
    rw [assigns_elements_iff hsourceRef htargetRef]
    exact hask _ _ hsource.element hplain.element _ hanswer
  | marker element hmarker =>
    rw [← Option.some.inj hanswer]
    exact iff_of_true rfl (.marker element hmarker)
  | notMarker element hobject hmarker =>
    rw [← Option.some.inj hanswer]
    exact iff_of_false Bool.false_ne_true (not_assigns_class hobject hmarker)
  | view hobject =>
    rw [assigns_view_iff hobject]
    obtain ⟨found, hfound, hiff⟩ := admitsView_supertypeAs? h ask hsource hplain
    rw [hfound] at hanswer
    rw [← Option.some.inj hanswer]
    exact hiff
  | notArray =>
    rw [← Option.some.inj hanswer]
    exact iff_of_false Bool.false_ne_true fun hassigns => nomatch hassigns

/-- An answer that is given is the right one, to whatever depth the rules were followed. -/
theorem assignableWithin_correct (h : table.IsHierarchy) (hbounds : IsGrounded table bounds)
    {depth : Nat} {source target : JavaType} (hsource : table.IsSource source)
    (hplain : table.IsPlain target) {answer : Bool}
    (hanswer : assignableWithin table bounds depth source target = some answer) :
    answer = true ↔ Assigns table bounds source target := by
  induction depth generalizing source target answer with
  | zero => cases hanswer
  | succ depth ih =>
    have hround := round_of_isPlain bounds h hsource hplain depth
    exact hround.correct h hbounds (fun _ _ hs hp _ => ih hs hp) hsource hplain hanswer

/-! ## Answers are given -/

theorem admitsView_isSome (h : table.IsHierarchy) (ask : JavaType → JavaType → Option Bool)
    {name target : String} {args targetArgs : List JavaType}
    (hsource : table.IsSource (.declared name args))
    (hplain : table.IsPlain (.declared target targetArgs)) :
    (admitsView ask targetArgs
      (table.supertypeAs? (.declared name args) target)).isSome = true := by
  obtain ⟨answer, hanswer, -⟩ := admitsView_supertypeAs? h ask hsource hplain
  rw [hanswer]
  rfl

theorem anyAssignable_isSome {ask : JavaType → JavaType → Option Bool} {target : JavaType}
    {sources : List JavaType} (hask : ∀ source ∈ sources, (ask source target).isSome = true) :
    (anyAssignable ask target sources).isSome = true := by
  induction sources with
  | nil => rfl
  | cons source sources ih =>
    obtain ⟨hfirst, hrest⟩ := List.forall_mem_cons.1 hask
    obtain ⟨first, hfirst⟩ := Option.isSome_iff_exists.1 hfirst
    rw [anyAssignable, hfirst]
    cases first with
    | false => exact ih hrest
    | true => rfl

/-- The rounds before a question about a declared or array type is asked: one for a box, and one for
each type variable that is not yet in `seen`. -/
def roundsBefore (bounds : TypeBounds) (seen : List String) : JavaType → Nat
  | .typeVariable _ => unseen (bounds.map Prod.fst) seen + 1
  | .primitive _ => 1
  | _ => 0

theorem roundsBefore_le (bounds : TypeBounds) (seen : List String) (source : JavaType) :
    roundsBefore bounds seen source ≤ bounds.length + 1 := by
  have hcount : unseen (bounds.map Prod.fst) seen ≤ bounds.length := by
    have hlength : (bounds.map Prod.fst).length = bounds.length := List.length_map _
    rw [← hlength]
    exact List.countP_le_length
  cases source with
  | typeVariable name => exact Nat.succ_le_succ hcount
  | primitive kind => exact Nat.le_add_left 1 _
  | _ => exact Nat.zero_le _

/-- The variables in `seen` lead to the source if that is a variable. -/
def LedFrom (bounds : TypeBounds) (seen : List String) (source : JavaType) : Prop :=
  ∀ name, source = .typeVariable name → ∀ earlier ∈ seen, TransGen (BoundedBy bounds) earlier name

theorem ledFrom_nil (source : JavaType) : LedFrom bounds [] source :=
  fun _ _ _ hearlier => nomatch hearlier

/-- Over bounds that form no cycle, each variable on the way to a bound is a new one. -/
theorem roundsBefore_upper (hacyclic : ∀ name, ¬ TransGen (BoundedBy bounds) name name)
    {name : String} {uppers : List JavaType} {upper : JavaType} {seen : List String}
    (huppers : bounds.find? name = some uppers) (hmem : upper ∈ uppers)
    (hseen : LedFrom bounds seen (.typeVariable name)) :
    LedFrom bounds (name :: seen) upper ∧
      roundsBefore bounds (name :: seen) upper < roundsBefore bounds seen (.typeVariable name) := by
  have hnew : seen.contains name = false := by
    rw [Bool.eq_false_iff, ne_eq, List.contains_iff_mem]
    exact fun hagain => hacyclic name (hseen name rfl name hagain)
  have hkey : name ∈ bounds.map Prod.fst :=
    List.mem_map_of_mem (f := Prod.fst) (Bindings.mem_of_lookupLast huppers)
  have hlt := unseen_cons_lt hkey hnew
  constructor
  · rintro other rfl earlier hearlier
    have hstep : BoundedBy bounds name other := ⟨uppers, huppers, hmem⟩
    rcases List.mem_cons.1 hearlier with rfl | hearlier
    · exact .single hstep
    · exact (hseen name rfl earlier hearlier).tail hstep
  · cases upper with
    | typeVariable other => exact Nat.succ_lt_succ hlt
    | primitive kind => exact Nat.succ_lt_succ (Nat.zero_lt_of_lt hlt)
    | _ => exact Nat.succ_pos _

/-- A question is answered when the rules are followed for enough rounds: for every level of the
target one round and those before a question about a declared or array type is asked. -/
theorem assignableWithin_isSome (h : table.IsHierarchy) (hbounds : IsGrounded table bounds)
    {depth : Nat} {source target : JavaType} {seen : List String} (hsource : table.IsSource source)
    (hplain : table.IsPlain target) (hseen : LedFrom bounds seen source)
    (hdepth : (bounds.length + 2) * target.size + roundsBefore bounds seen source ≤ depth) :
    (assignableWithin table bounds depth source target).isSome = true := by
  induction depth generalizing source target seen with
  | zero =>
    have hpos : 0 < (bounds.length + 2) * target.size := Nat.mul_pos (by omega) target.size_pos
    omega
  | succ depth ih =>
    have hround := round_of_isPlain bounds h hsource hplain depth
    generalize assignableWithin table bounds (depth + 1) source target = result at hround
    cases hround with
    -- A box and a bound cost one of the rounds before, an element a level of the target.
    | boxed htarget =>
      exact ih (.box _) hplain (ledFrom_nil _) (Nat.le_of_succ_le_succ hdepth)
    | @bounds name target htarget hobject hother =>
      refine anyAssignable_isSome fun upper hmem => ?_
      have hsourceUpper := hbounds.isSource hmem
      obtain ⟨uppers, huppers, hmem⟩ := mem_uppers_iff.1 hmem
      obtain ⟨hled, hlt⟩ := roundsBefore_upper hbounds.acyclic huppers hmem hseen
      exact ih hsourceUpper hplain hled (by omega)
    | @elements source target hsourceRef htargetRef =>
      have hle := roundsBefore_le bounds [] source
      refine ih hsource.element hplain.element (ledFrom_nil source) ?_
      rw [JavaType.size, Nat.mul_succ] at hdepth
      omega
    | view hobject => exact admitsView_isSome h _ hsource hplain
    | _ => rfl

/-- The depth to which `isAssignable` follows the rules suffices for questions about plain types. -/
theorem assignableWithin_eq (h : table.IsHierarchy) (hbounds : IsGrounded table bounds)
    {source target : JavaType} (hsource : table.IsSource source) (hplain : table.IsPlain target)
    {depth : Nat} (hdepth : assignabilityDepth bounds source target ≤ depth) :
    assignableWithin table bounds depth source target =
      some (table.isAssignable bounds source target) := by
  have hneeded : (bounds.length + 2) * target.size + roundsBefore bounds [] source ≤
      assignabilityDepth bounds source target := by
    have hle := roundsBefore_le bounds [] source
    rw [assignabilityDepth, Nat.mul_comm _ (bounds.length + 2), Nat.mul_add, Nat.mul_add]
    omega
  obtain ⟨answer, hanswer⟩ := Option.isSome_iff_exists.1 (assignableWithin_isSome h hbounds hsource
    hplain (ledFrom_nil source) (Nat.le_trans hneeded hdepth))
  rw [hanswer, isAssignable_of_within hanswer]

theorem isAssignable_iff (h : table.IsHierarchy) (hbounds : IsGrounded table bounds)
    {source target : JavaType} (hsource : table.IsSource source) (hplain : table.IsPlain target) :
    table.isAssignable bounds source target = true ↔ Assigns table bounds source target :=
  assignableWithin_correct h hbounds hsource hplain
    (assignableWithin_eq h hbounds hsource hplain (Nat.le_refl _))

end ClassTable

end BundleBuilder
