import BundleBuilder.Proofs.ClassTable.AssignmentRules

/-!
# Where the rules of assignability come to an end

A question has a source and a target. Most rules go on with a part of the target, or with the box or
a bound of the source, which can only happen finitely often in a row (`Follows.ahead_lt`). A lower
bounded wildcard turns a question around: its bound is the new source, and a type argument of the old
source is the new target. A question is therefore answered unless it leads to turns without end
(`isAnswered_of_acc`).

There is no turn at all if the target has no lower bounded wildcard. For all other targets it is
enough that classes and type variables can be ranked so that no supertype of a class and no bound of
a variable is of higher rank, where a lower bounded wildcard counts one more than its bound: then
every turn goes down in rank (`assignability_ends`). Without supertypes and bounds that have lower
bounded wildcards, everything can be given the same rank. Some condition is necessary: the
class `Knot` with the supertype `Sink<Sink<? super Knot>>` leads from a question to the same
question (`knot_unanswered`).
-/

set_option autoImplicit false

namespace BundleBuilder

open Relation

namespace JavaType

/-- What is compared with an upper bound: the bound of an upper bounded wildcard, or the type. -/
def upperPart : JavaType → JavaType
  | .wildcardExtends bound => bound
  | type => type

/-- What is compared with a lower bound: the bound of a lower bounded wildcard, or the type. -/
def lowerPart : JavaType → JavaType
  | .wildcardSuper bound => bound
  | type => type

theorem size_le_sizeList {type : JavaType} {types : List JavaType} (h : type ∈ types) :
    type.size ≤ sizeList types := by
  induction types with
  | nil => cases h
  | cons head types ih =>
    rw [sizeList]
    rcases List.mem_cons.1 h with rfl | hrest
    · exact Nat.le_add_right _ _
    · exact Nat.le_trans (ih hrest) (Nat.le_add_left _ _)

end JavaType

namespace ClassTable

variable {table : ClassTable} {bounds : TypeBounds}

/-! ## Questions -/

/-- Whether a value of one type may be assigned to a variable of another one. -/
structure Question where
  source : JavaType
  target : JavaType

/-- One question follows another one if its answer may be asked for, and the target stays on its
side. -/
inductive Follows (table : ClassTable) (bounds : TypeBounds) : Question → Question → Prop where
  | boxed (kind : Primitive) (target : JavaType) :
      Follows table bounds ⟨.primitive kind, target⟩ ⟨.named kind.boxName, target⟩
  | upper {name : String} {upper : JavaType} (target : JavaType) :
      upper ∈ (bounds.find? name).getD [] →
      Follows table bounds ⟨.typeVariable name, target⟩ ⟨upper, target⟩
  | element (source target : JavaType) :
      Follows table bounds ⟨.array source, .array target⟩ ⟨source, target⟩
  | argument {name target viewName : String} {args targetArgs viewArgs : List JavaType}
      {bound arg : JavaType} :
      table.supertypeAs? (.declared name args) target = some (.declared viewName viewArgs) →
      (.wildcardExtends bound, arg) ∈ targetArgs.zip viewArgs →
      Follows table bounds ⟨.declared name args, .declared target targetArgs⟩
        ⟨arg.upperPart, bound⟩

/-- One question turns into another one at a lower bounded wildcard of the target. -/
inductive Turns (table : ClassTable) : Question → Question → Prop where
  | argument {name target viewName : String} {args targetArgs viewArgs : List JavaType}
      {bound arg : JavaType} :
      table.supertypeAs? (.declared name args) target = some (.declared viewName viewArgs) →
      (.wildcardSuper bound, arg) ∈ targetArgs.zip viewArgs →
      Turns table ⟨.declared name args, .declared target targetArgs⟩ ⟨bound, arg.lowerPart⟩

/-- A turn after any number of questions that follow each other. -/
def LeadsToTurn (table : ClassTable) (bounds : TypeBounds) (question next : Question) : Prop :=
  ∃ middle, ReflTransGen (Follows table bounds) question middle ∧ Turns table middle next

/-! ## Answers -/

/-- The rules answer a question at some depth. -/
def IsAnswered (table : ClassTable) (bounds : TypeBounds) (question : Question) : Prop :=
  ∃ depth, (assignableWithin table bounds depth question.source question.target).isSome = true

/-- The rules compare two type arguments at some depth. -/
def IsCompared (table : ClassTable) (bounds : TypeBounds) (target source : JavaType) : Prop :=
  ∃ depth, (admits (assignableWithin table bounds depth) target source).isSome = true

/-- Finitely many answers are all given at one depth, if they stay at greater depths. -/
theorem exists_depth {α : Type} (given : Nat → α → Prop) {asked : List α}
    (hmono : ∀ a depth deeper, depth ≤ deeper → given depth a → given deeper a)
    (h : ∀ a ∈ asked, ∃ depth, given depth a) : ∃ depth, ∀ a ∈ asked, given depth a := by
  induction asked with
  | nil => exact ⟨0, fun _ hmem => nomatch hmem⟩
  | cons first asked ih =>
    obtain ⟨hfirst, hrest⟩ := List.forall_mem_cons.1 h
    obtain ⟨depth, hdepth⟩ := hfirst
    obtain ⟨other, hother⟩ := ih hrest
    refine ⟨max depth other, List.forall_mem_cons.2 ⟨?_, fun a ha => ?_⟩⟩
    · exact hmono first depth _ (Nat.le_max_left _ _) hdepth
    · exact hmono a other _ (Nat.le_max_right _ _) (hother a ha)

theorem isSome_of_le {depth deeper : Nat} (hle : depth ≤ deeper) {source target : JavaType}
    (h : (assignableWithin table bounds depth source target).isSome = true) :
    (assignableWithin table bounds deeper source target).isSome = true := by
  obtain ⟨answer, hanswer⟩ := Option.isSome_iff_exists.1 h
  rw [assignableWithin_mono hanswer deeper hle]
  rfl

theorem admits_isSome_of_le {depth deeper : Nat} (hle : depth ≤ deeper) {target source : JavaType}
    (h : (admits (assignableWithin table bounds depth) target source).isSome = true) :
    (admits (assignableWithin table bounds deeper) target source).isSome = true := by
  obtain ⟨answer, hanswer⟩ := Option.isSome_iff_exists.1 h
  rw [admits_mono (isExtendedBy_of_le hle) hanswer]
  rfl

/-- Type arguments are compared if an answer is given to the question about their bounds. -/
theorem admits_isSome_of_bounds {ask : JavaType → JavaType → Option Bool} {target source : JavaType}
    (hupper : ∀ bound, target = .wildcardExtends bound →
      (ask source.upperPart bound).isSome = true)
    (hlower : ∀ bound, target = .wildcardSuper bound →
      (ask bound source.lowerPart).isSome = true) :
    (admits ask target source).isSome = true := by
  cases target with
  | wildcardExtends bound =>
    have hask := hupper bound rfl
    cases source with
    | wildcard | wildcardSuper _ => rfl
    | _ => exact hask
  | wildcardSuper bound =>
    have hask := hlower bound rfl
    cases source with
    | wildcard | wildcardExtends _ => rfl
    | _ => exact hask
  | _ => rfl

/-- Type arguments are compared if the questions about their bounds are answered. -/
theorem isCompared_of_bounds {target source : JavaType}
    (hupper : ∀ bound, target = .wildcardExtends bound →
      IsAnswered table bounds ⟨source.upperPart, bound⟩)
    (hlower : ∀ bound, target = .wildcardSuper bound →
      IsAnswered table bounds ⟨bound, source.lowerPart⟩) :
    IsCompared table bounds target source := by
  cases target with
  | wildcardExtends bound =>
    obtain ⟨depth, hdepth⟩ := hupper bound rfl
    refine ⟨depth, admits_isSome_of_bounds ?_ fun _ h => nomatch h⟩
    rintro _ ⟨⟩
    exact hdepth
  | wildcardSuper bound =>
    obtain ⟨depth, hdepth⟩ := hlower bound rfl
    refine ⟨depth, admits_isSome_of_bounds (fun _ h => nomatch h) ?_⟩
    rintro _ ⟨⟩
    exact hdepth
  | _ => exact ⟨0, rfl⟩

theorem admitsAll_isSome {ask : JavaType → JavaType → Option Bool} {targets sources : List JavaType}
    (h : ∀ pair ∈ targets.zip sources, (admits ask pair.1 pair.2).isSome = true) :
    (admitsAll ask targets sources).isSome = true := by
  induction targets generalizing sources with
  | nil => rfl
  | cons target targets ih =>
    cases sources with
    | nil => rfl
    | cons source sources =>
      rw [List.zip_cons_cons, List.forall_mem_cons] at h
      obtain ⟨first, hfirst⟩ := Option.isSome_iff_exists.1 h.1
      rw [admitsAll]
      dsimp only at hfirst
      rw [hfirst]
      cases first with
      | true => exact ih h.2
      | false => rfl

theorem admitsView_isSome_of_args {ask : JavaType → JavaType → Option Bool}
    {targetArgs : List JavaType} {view? : Option JavaType}
    (h : ∀ viewName viewArgs, view? = some (.declared viewName viewArgs) →
      ∀ pair ∈ targetArgs.zip viewArgs, (admits ask pair.1 pair.2).isSome = true) :
    (admitsView ask targetArgs view?).isSome = true := by
  match view? with
  | some (.declared viewName viewArgs) =>
    rw [admitsView]
    split
    · rfl
    · split
      · exact admitsAll_isSome (h viewName viewArgs rfl)
      · rfl
  | none | some (.primitive _) | some .void | some (.array _) | some (.typeVariable _)
  | some .wildcard | some (.wildcardExtends _) | some (.wildcardSuper _) => rfl

/-- A view is compared with the type arguments of the target if these are compared one by one. -/
theorem exists_admitsView {targetArgs : List JavaType} {view? : Option JavaType}
    (h : ∀ viewName viewArgs, view? = some (.declared viewName viewArgs) →
      ∀ pair ∈ targetArgs.zip viewArgs, IsCompared table bounds pair.1 pair.2) :
    ∃ depth, (admitsView (assignableWithin table bounds depth) targetArgs view?).isSome = true := by
  match view? with
  | some (.declared viewName viewArgs) =>
    obtain ⟨depth, hdepth⟩ := exists_depth
      (fun depth (pair : JavaType × JavaType) =>
        (admits (assignableWithin table bounds depth) pair.1 pair.2).isSome = true)
      (fun _ _ _ hle hgiven => admits_isSome_of_le hle hgiven) (h viewName viewArgs rfl)
    refine ⟨depth, admitsView_isSome_of_args ?_⟩
    rintro _ _ ⟨⟩
    exact hdepth
  | none | some (.primitive _) | some .void | some (.array _) | some (.typeVariable _)
  | some .wildcard | some (.wildcardExtends _) | some (.wildcardSuper _) => exact ⟨0, rfl⟩

/-- A question is answered if all questions that follow it, or into which it turns, are answered. -/
theorem isAnswered_of_next {question : Question}
    (hfollows : ∀ next, Follows table bounds question next → IsAnswered table bounds next)
    (hturns : ∀ next, Turns table question next → IsAnswered table bounds next) :
    IsAnswered table bounds question := by
  obtain ⟨source, target⟩ := question
  obtain ⟨reply, hreply, hround⟩ := exists_reply table bounds source target
  suffices hanswer : ∃ depth, (reply (assignableWithin table bounds depth)).isSome = true by
    obtain ⟨depth, hdepth⟩ := hanswer
    exact ⟨depth + 1, by rwa [hround]⟩
  cases hreply with
  | settled answer => exact ⟨0, rfl⟩
  | boxed kind => exact hfollows _ (.boxed kind target)
  | elements source target => exact hfollows _ (.element source target)
  | uppers name =>
    have huppers : ∀ upper ∈ (bounds.find? name).getD [], IsAnswered table bounds ⟨upper, target⟩ :=
      fun upper hmem => hfollows _ (.upper target hmem)
    obtain ⟨depth, hdepth⟩ := exists_depth
      (fun depth upper => (assignableWithin table bounds depth upper target).isSome = true)
      (fun _ _ _ hle hgiven => isSome_of_le hle hgiven) huppers
    exact ⟨depth, anyAssignable_isSome hdepth⟩
  | view name other args targetArgs =>
    refine exists_admitsView fun viewName viewArgs hview pair hpair => ?_
    obtain ⟨targetArg, arg⟩ := pair
    refine isCompared_of_bounds (fun bound hbound => ?_) fun bound hbound => ?_
    · dsimp only at hbound
      subst hbound
      exact hfollows _ (.argument hview hpair)
    · dsimp only at hbound
      subst hbound
      exact hturns _ (.argument hview hpair)

/-! ## Turns without end -/

/-- A bound on the number of questions that follow a question, where the variables in `seen` lead to
its source. -/
def ahead (bounds : TypeBounds) (seen : List String) (question : Question) : Nat :=
  (bounds.length + 2) * question.target.size + roundsBefore bounds seen question.source

/-- A smaller target leaves fewer questions ahead, whatever the sources are. -/
theorem ahead_lt_of_size_lt {question next : Question}
    (h : next.target.size < question.target.size) (seen : List String) :
    ahead bounds [] next < ahead bounds seen question := by
  have hrounds := roundsBefore_le bounds [] next.source
  have hsize : (bounds.length + 2) * (next.target.size + 1)
      ≤ (bounds.length + 2) * question.target.size := Nat.mul_le_mul_left _ h
  rw [Nat.mul_succ] at hsize
  rw [ahead, ahead]
  omega

/-- Over bounds that form no cycle, questions that follow each other come to an end. -/
theorem Follows.ahead_lt (hacyclic : ∀ name, ¬ TransGen (BoundedBy bounds) name name)
    {question next : Question} (h : Follows table bounds question next) {seen : List String}
    (hseen : LedFrom bounds seen question.source) :
    ∃ later, LedFrom bounds later next.source ∧
      ahead bounds later next < ahead bounds seen question := by
  cases h with
  | boxed kind target => exact ⟨[], ledFrom_nil _, Nat.lt_succ_self _⟩
  | upper target hmem =>
    obtain ⟨uppers, huppers, hmem⟩ := mem_uppers_iff.1 hmem
    obtain ⟨hled, hlt⟩ := roundsBefore_upper hacyclic huppers hmem hseen
    exact ⟨_, hled, Nat.add_lt_add_left hlt _⟩
  | element source target =>
    exact ⟨[], ledFrom_nil _, ahead_lt_of_size_lt (Nat.lt_succ_self _) seen⟩
  | argument hview hpair =>
    have hsize := JavaType.size_le_sizeList (List.of_mem_zip hpair).1
    rw [JavaType.size] at hsize
    refine ⟨[], ledFrom_nil _, ahead_lt_of_size_lt ?_ seen⟩
    exact Nat.lt_succ_of_lt hsize

/-- A question is answered if all turns to which it leads are. -/
theorem isAnswered_of_turns (hacyclic : ∀ name, ¬ TransGen (BoundedBy bounds) name name)
    {question : Question} {seen : List String} (hseen : LedFrom bounds seen question.source)
    (hturns : ∀ next, LeadsToTurn table bounds question next → IsAnswered table bounds next) :
    IsAnswered table bounds question := by
  induction hahead : ahead bounds seen question using Nat.strongRecOn generalizing question seen with
  | ind number ih =>
    refine isAnswered_of_next (fun next hnext => ?_) fun next hnext =>
      hturns next ⟨question, .refl, hnext⟩
    obtain ⟨later, hlater, hlt⟩ := hnext.ahead_lt hacyclic hseen
    rw [hahead] at hlt
    refine ih _ hlt hlater (fun turn hturn => ?_) rfl
    obtain ⟨middle, hmiddle, hturn⟩ := hturn
    exact hturns turn ⟨middle, .head hnext hmiddle, hturn⟩

/-- A question is answered unless it leads to turns without end. -/
theorem isAnswered_of_acc (hacyclic : ∀ name, ¬ TransGen (BoundedBy bounds) name name)
    {question : Question}
    (h : Acc (fun next question => LeadsToTurn table bounds question next) question) :
    IsAnswered table bounds question := by
  induction h with
  | intro question _ ih => exact isAnswered_of_turns hacyclic (ledFrom_nil _) ih

/-! ## Ranks -/

/-- Ranks of classes and type variables. -/
structure Ranking where
  ofClass : String → Nat
  ofVariable : String → Nat

namespace Ranking

/-- All classes and variables are of the same rank. Only lower bounded wildcards count then. -/
def flat : Ranking := ⟨fun _ => 0, fun _ => 0⟩

variable (ranking : Ranking)

mutual

/-- The rank of a type: type arguments add to the rank of the class, and a lower bounded wildcard
counts one more than its bound. -/
def rank : JavaType → Nat
  | .primitive kind => ranking.ofClass kind.boxName
  | .declared name args => ranking.ofClass name + rankAll args
  | .array element => rank element
  | .typeVariable name => ranking.ofVariable name
  | .wildcardExtends bound => rank bound
  | .wildcardSuper bound => rank bound + 1
  | .void | .wildcard => 0

/-- The highest rank in a list of types. -/
def rankAll : List JavaType → Nat
  | [] => 0
  | type :: types => max (rank type) (rankAll types)

end

/-- No supertype of a class and no bound of a variable is of higher rank. -/
structure Fits (table : ClassTable) (bounds : TypeBounds) : Prop where
  supertype {name : String} {decl : ClassDecl} {type : JavaType} :
    table.find? name = some decl → DirectSupertype decl type →
      ranking.rank type ≤ ranking.ofClass name
  upper {name : String} {type : JavaType} :
    type ∈ (bounds.find? name).getD [] → ranking.rank type ≤ ranking.ofVariable name

variable {ranking}

/-- Whether a ranking fits shows in the classes and bounds one by one. -/
theorem fits_of_forall
    (hclasses : ∀ decl ∈ table.classes, ∀ type ∈ directSupertypes decl,
      ranking.rank type ≤ ranking.ofClass decl.name)
    (hbounds : ∀ entry ∈ bounds, ∀ type ∈ entry.2,
      ranking.rank type ≤ ranking.ofVariable entry.1) : ranking.Fits table bounds where
  supertype hfind hdirect := by
    have hle := hclasses _ (mem_classes_of_find? hfind) _ (mem_directSupertypes_iff.2 hdirect)
    rwa [name_of_find? hfind] at hle
  upper hmem := by
    obtain ⟨uppers, huppers, hmem⟩ := mem_uppers_iff.1 hmem
    exact hbounds _ (Bindings.mem_of_lookupLast huppers) _ hmem

theorem rank_le_rankAll {type : JavaType} {types : List JavaType} (h : type ∈ types) :
    ranking.rank type ≤ ranking.rankAll types := by
  induction types with
  | nil => cases h
  | cons head types ih =>
    rw [rankAll]
    rcases List.mem_cons.1 h with rfl | hrest
    · exact Nat.le_max_left _ _
    · exact Nat.le_trans (ih hrest) (Nat.le_max_right _ _)

theorem rank_upperPart_le (type : JavaType) : ranking.rank type.upperPart ≤ ranking.rank type := by
  cases type <;> exact Nat.le_refl _

theorem rank_lowerPart_le (type : JavaType) : ranking.rank type.lowerPart ≤ ranking.rank type := by
  cases type with
  | wildcardSuper bound => exact Nat.le_succ _
  | _ => exact Nat.le_refl _

theorem rank_erase_le (type : JavaType) : ranking.rank type.erase ≤ ranking.rank type := by
  cases type with
  | declared name args => exact Nat.add_le_add_left (Nat.zero_le _) _
  | _ => exact Nat.le_refl _

mutual

/-- Putting types for variables adds no more to the rank of a type than the ranks of these types. -/
theorem rank_substitute_le {bindings : Bindings} {most : Nat}
    (hmost : ∀ name type, bindings.find? name = some type → ranking.rank type ≤ most) :
    ∀ type : JavaType, ranking.rank (type.substitute bindings) ≤ ranking.rank type + most
  | .typeVariable name => by
    rw [JavaType.substitute]
    cases hbound : bindings.find? name with
    | none => exact Nat.le_add_right _ _
    | some type => exact Nat.le_trans (hmost name type hbound) (Nat.le_add_left _ _)
  | .declared name args => by
    have hargs := rankAll_substituteAll_le hmost args
    rw [JavaType.substitute, rank, rank]
    omega
  | .array element => rank_substitute_le hmost element
  | .wildcardExtends bound => rank_substitute_le hmost bound
  | .wildcardSuper bound => by
    have hbound := rank_substitute_le hmost bound
    rw [JavaType.substitute, rank, rank]
    omega
  | .primitive _ | .void | .wildcard => Nat.le_add_right _ _

theorem rankAll_substituteAll_le {bindings : Bindings} {most : Nat}
    (hmost : ∀ name type, bindings.find? name = some type → ranking.rank type ≤ most) :
    ∀ types : List JavaType,
      ranking.rankAll (JavaType.substituteAll bindings types) ≤ ranking.rankAll types + most
  | [] => Nat.zero_le _
  | type :: types => by
    have hhead := rank_substitute_le hmost type
    have htail := rankAll_substituteAll_le hmost types
    rw [JavaType.substituteAll, rankAll, rankAll]
    omega

end

/-- A step to a supertype does not go up in rank. -/
theorem Fits.rank_step_le (h : ranking.Fits table bounds) {lower upper : JavaType}
    (hstep : SupertypeStep table lower upper) : ranking.rank upper ≤ ranking.rank lower := by
  cases hstep with
  | @raw name decl type hfind _ hdirect =>
    calc ranking.rank type.erase ≤ ranking.rank type := rank_erase_le type
      _ ≤ ranking.ofClass name := h.supertype hfind hdirect
  | @applied name args decl type hfind _ hdirect =>
    have hargs : ∀ parameter bound, (argumentBindings decl args).find? parameter = some bound →
        ranking.rank bound ≤ ranking.rankAll args := fun _ _ hbound =>
      rank_le_rankAll (List.of_mem_zip (Bindings.mem_of_lookupLast hbound)).2
    calc ranking.rank (type.substitute (argumentBindings decl args))
        ≤ ranking.rank type + ranking.rankAll args := rank_substitute_le hargs type
      _ ≤ ranking.ofClass name + ranking.rankAll args :=
        Nat.add_le_add_right (h.supertype hfind hdirect) _

theorem Fits.rank_le_of_reaches (h : ranking.Fits table bounds) {lower upper : JavaType}
    (hreaches : Reaches table lower upper) : ranking.rank upper ≤ ranking.rank lower := by
  induction hreaches with
  | refl => exact Nat.le_refl _
  | tail _ hstep ih => exact Nat.le_trans (h.rank_step_le hstep) ih

/-- The type arguments of a view are not of higher rank than the type. -/
theorem Fits.rank_view_le (h : ranking.Fits table bounds) {type arg : JavaType}
    {target viewName : String} {viewArgs : List JavaType}
    (hview : table.supertypeAs? type target = some (.declared viewName viewArgs))
    (harg : arg ∈ viewArgs) : ranking.rank arg ≤ ranking.rank type := by
  calc ranking.rank arg ≤ ranking.rankAll viewArgs := rank_le_rankAll harg
    _ ≤ ranking.rank (.declared viewName viewArgs) := Nat.le_add_left _ _
    _ ≤ ranking.rank type := h.rank_le_of_reaches (reaches_of_supertypeAs? hview).2

theorem rank_bound_le {bound target : JavaType} {name : String} {targetArgs : List JavaType}
    (h : target ∈ targetArgs) (hbound : ranking.rank bound ≤ ranking.rank target) :
    ranking.rank bound ≤ ranking.rank (.declared name targetArgs) :=
  Nat.le_trans (Nat.le_trans hbound (rank_le_rankAll h)) (Nat.le_add_left _ _)

end Ranking

/-! ## Ranks of questions -/

variable {ranking : Ranking} {question next : Question}

variable (ranking) in
/-- A following question has a target of no higher rank. -/
theorem Follows.rank_target_le (h : Follows table bounds question next) :
    ranking.rank next.target ≤ ranking.rank question.target := by
  cases h with
  | argument hview hpair =>
    exact Ranking.rank_bound_le (List.of_mem_zip hpair).1 (Nat.le_refl _)
  | _ => exact Nat.le_refl _

/-- A following question has a source of no higher rank, if the ranking fits. -/
theorem Follows.rank_source_le (h : Follows table bounds question next)
    (hfits : ranking.Fits table bounds) :
    ranking.rank next.source ≤ ranking.rank question.source := by
  cases h with
  | boxed => exact Nat.le_refl _
  | element => exact Nat.le_refl _
  | upper target hmem => exact hfits.upper hmem
  | argument hview hpair =>
    exact Nat.le_trans (Ranking.rank_upperPart_le _)
      (hfits.rank_view_le hview (List.of_mem_zip hpair).2)

variable (ranking) in
/-- At a turn the target is of higher rank than the new source. -/
theorem Turns.rank_source_lt (h : Turns table question next) :
    ranking.rank next.source < ranking.rank question.target := by
  cases h with
  | @argument _ target _ _ targetArgs _ bound _ hview hpair =>
    have hargs : ranking.rank (.wildcardSuper bound) ≤ ranking.rank (.declared target targetArgs) :=
      Ranking.rank_bound_le (List.of_mem_zip hpair).1 (Nat.le_refl _)
    exact hargs

theorem Turns.rank_target_le (h : Turns table question next) (hfits : ranking.Fits table bounds) :
    ranking.rank next.target ≤ ranking.rank question.source := by
  cases h with
  | argument hview hpair =>
    exact Nat.le_trans (Ranking.rank_lowerPart_le _)
      (hfits.rank_view_le hview (List.of_mem_zip hpair).2)

variable (ranking) in
theorem rank_target_le_of_follows (h : ReflTransGen (Follows table bounds) question next) :
    ranking.rank next.target ≤ ranking.rank question.target := by
  induction h with
  | refl => exact Nat.le_refl _
  | tail _ hstep ih => exact Nat.le_trans (hstep.rank_target_le ranking) ih

theorem rank_source_le_of_follows (hfits : ranking.Fits table bounds)
    (h : ReflTransGen (Follows table bounds) question next) :
    ranking.rank next.source ≤ ranking.rank question.source := by
  induction h with
  | refl => exact Nat.le_refl _
  | tail _ hstep ih => exact Nat.le_trans (hstep.rank_source_le hfits) ih

/-- Source and target together go down in rank with every turn. -/
theorem LeadsToTurn.rank_lt (h : LeadsToTurn table bounds question next)
    (hfits : ranking.Fits table bounds) :
    ranking.rank next.source + ranking.rank next.target
      < ranking.rank question.source + ranking.rank question.target := by
  obtain ⟨middle, hfollows, hturn⟩ := h
  have htarget := rank_target_le_of_follows ranking hfollows
  have hsource := rank_source_le_of_follows hfits hfollows
  have hnewSource := hturn.rank_source_lt ranking
  have hnewTarget := hturn.rank_target_le hfits
  omega

/-- With a ranking that fits, turns come to an end. -/
theorem acc_of_fits (hfits : ranking.Fits table bounds) (question : Question) :
    Acc (fun next question => LeadsToTurn table bounds question next) question := by
  have hwf : WellFounded fun next question => LeadsToTurn table bounds question next :=
    Subrelation.wf (fun {_ _} h => h.rank_lt hfits)
      (measure fun question : Question => ranking.rank question.source + ranking.rank question.target).wf
  exact hwf.apply question

/-- Without a lower bounded wildcard in the target there is no turn. -/
theorem acc_of_flat (h : Ranking.flat.rank question.target = 0) :
    Acc (fun next question => LeadsToTurn table bounds question next) question := by
  refine .intro _ fun next hnext => ?_
  obtain ⟨middle, hfollows, hturn⟩ := hnext
  have htarget := rank_target_le_of_follows .flat hfollows
  have hpositive := hturn.rank_source_lt .flat
  omega

/-! ## Coming to an end -/

/-- The rules come to an end for a source and a target: the question whether the source may be
assigned to the target is answered, and so is the question whether the target admits the source as a
type argument, to whatever greater depth the rules are followed. -/
structure Ends (table : ClassTable) (bounds : TypeBounds) (source target : JavaType) : Prop where
  assignable : ∃ answer, table.assignability? bounds source target = some answer
  containment : ∃ answer depth, ∀ deeper ≥ depth,
    admits (assignableWithin table bounds deeper) target source = some answer

theorem ends_of_answered {source target : JavaType}
    (hanswered : IsAnswered table bounds ⟨source, target⟩)
    (hcompared : IsCompared table bounds target source) : Ends table bounds source target := by
  obtain ⟨depth, hdepth⟩ := hanswered
  obtain ⟨answer, hanswer⟩ := Option.isSome_iff_exists.1 hdepth
  obtain ⟨other, hother⟩ := hcompared
  obtain ⟨comparison, hcomparison⟩ := Option.isSome_iff_exists.1 hother
  exact ⟨⟨answer, assignability?_eq_some_iff.2 ⟨depth, hanswer⟩⟩, comparison, other,
    fun deeper hle => admits_mono (isExtendedBy_of_le hle) hcomparison⟩

/-- Over bounds of which those that are type variables form no cycle, the rules of assignability come
to an end for every target without lower bounded wildcards. They come to an end for all sources and
targets if classes and type variables can be ranked so that no supertype and no bound is of higher
rank than what declares it; so they do if no supertype and no bound has a lower bounded wildcard. -/
theorem assignability_ends (table : ClassTable) (bounds : TypeBounds)
    (hacyclic : ∀ name, ¬ TransGen (BoundedBy bounds) name name) :
    (∀ source target, Ranking.flat.rank target = 0 → Ends table bounds source target) ∧
    ∀ ranking : Ranking, ranking.Fits table bounds →
      ∀ source target, Ends table bounds source target := by
  constructor
  · intro source target hflat
    refine ends_of_answered (isAnswered_of_acc hacyclic (acc_of_flat hflat)) ?_
    refine isCompared_of_bounds (fun bound hbound => ?_) fun bound hbound => ?_
    · subst hbound
      exact isAnswered_of_acc hacyclic (acc_of_flat hflat)
    · subst hbound
      cases hflat
  · intro ranking hfits source target
    have hall : ∀ question, IsAnswered table bounds question := fun question =>
      isAnswered_of_acc hacyclic (acc_of_fits hfits question)
    exact ends_of_answered (hall _) (isCompared_of_bounds (fun _ _ => hall _) fun _ _ => hall _)

/-! ### Feeds and knots -/

/-- The sinks that take everything of a type. -/
def sinkOf (type : JavaType) : JavaType := .declared "Sink" [.wildcardSuper type]

/-- A class that is sent sinks of items. -/
def feedClasses : ClassTable :=
  empty.insertAll
    [ { name := "Item" },
      { name := "Sink", kind := .interfaceKind, typeParameters := [{ name := "T" }] },
      { name := "Feed", interfaces := [.declared "Sink" [sinkOf (.named "Item")]] } ]

/-- A class that is sent sinks of itself. -/
def knot : ClassDecl :=
  { name := "Knot", interfaces := [.declared "Sink" [sinkOf (.named "Knot")]] }

def knotClasses : ClassTable :=
  empty.insertAll
    [{ name := "Sink", kind := .interfaceKind, typeParameters := [{ name := "T" }] }, knot]

/-- Feeds, and variables bounded by them, rank above everything else. -/
def feedRanking : Ranking where
  ofClass name := if name = "Feed" then 1 else 0
  ofVariable _ := 1

theorem acyclic_of_no_variables
    (h : ∀ entry ∈ bounds, ∀ upper ∈ entry.2, upper.isTypeVariable = false) (name : String) :
    ¬ TransGen (BoundedBy bounds) name name := by
  intro hcycle
  obtain ⟨other, ⟨uppers, huppers, hmem⟩, -⟩ := TransGen.head'_iff.1 hcycle
  exact Bool.noConfusion (h _ (Bindings.mem_of_lookupLast huppers) _ hmem)

/-- Sinks of feeds turn a question around again and again, but not for ever. -/
theorem assignability_ends_feed :
    (∀ name, ¬ TransGen (BoundedBy [("F", [.named "Feed"])]) name name) ∧
    Ranking.flat.rank (.array (.named "Feed")) = 0 ∧
    Ends feedClasses [("F", [.named "Feed"])] (.typeVariable "F") (.array (.named "Feed")) ∧
    feedRanking.Fits feedClasses [("F", [.named "Feed"])] ∧
    Ends feedClasses [("F", [.named "Feed"])] (.typeVariable "F")
      (sinkOf (sinkOf (sinkOf (.typeVariable "F")))) := by
  have hfits : feedRanking.Fits feedClasses [("F", [.named "Feed"])] :=
    Ranking.fits_of_forall (by decide +kernel) (by decide +kernel)
  have hacyclic : ∀ name, ¬ TransGen (BoundedBy [("F", [.named "Feed"])]) name name :=
    acyclic_of_no_variables (by decide)
  obtain ⟨hflat, hranked⟩ := assignability_ends feedClasses _ hacyclic
  exact ⟨hacyclic, rfl, hflat _ _ rfl, hfits, hranked _ hfits _ _⟩

theorem supertypeAs?_knot :
    knotClasses.supertypeAs? (.declared "Knot" []) "Sink" =
      some (.declared "Sink" [sinkOf (.named "Knot")]) := by
  have hknot : knotClasses.find? "Knot" = some knot := by decide +kernel
  have hroot : knotClasses.find? objectName = none := by decide +kernel
  have hstep : supertypeStep knot [] =
      [.declared objectName [], .declared "Sink" [sinkOf (.named "Knot")]] := by decide +kernel
  rw [supertypeAs?, searchSupertype_declared, if_neg (by decide), if_neg (by decide), hknot]
  dsimp only
  rw [hstep, List.append_nil, searchSupertype_declared, if_neg (by decide), if_neg (by decide),
    hroot]
  dsimp only
  rw [searchSupertype_declared, if_pos rfl]

/-- Whether a knot is a sink of knots depends on whether a knot is a sink of knots. -/
theorem knot_unanswered :
    (∀ name, ¬ TransGen (BoundedBy []) name name) ∧
    (∀ depth, knotClasses.assignableWithin [] depth (.named "Knot") (sinkOf (.named "Knot")) =
      none) ∧
    ¬ Ends knotClasses [] (.named "Knot") (sinkOf (.named "Knot")) := by
  have hnone : ∀ depth,
      knotClasses.assignableWithin [] depth (.named "Knot") (sinkOf (.named "Knot")) = none := by
    intro depth
    induction depth with
    | zero => rfl
    | succ depth ih =>
      have hround : knotClasses.assignableWithin [] (depth + 1) (.named "Knot")
          (sinkOf (.named "Knot")) =
          admitsView (knotClasses.assignableWithin [] depth) [.wildcardSuper (.named "Knot")]
            (knotClasses.supertypeAs? (.declared "Knot" []) "Sink") := rfl
      have hadmits : admits (knotClasses.assignableWithin [] depth) (.wildcardSuper (.named "Knot"))
          (sinkOf (.named "Knot")) = none := ih
      rw [hround, supertypeAs?_knot, admitsView, if_neg (by decide),
        if_pos (by decide), admitsAll, hadmits]
  refine ⟨acyclic_of_no_variables (by decide), hnone, fun hends => ?_⟩
  obtain ⟨answer, hanswer⟩ := hends.assignable
  obtain ⟨depth, hdepth⟩ := assignability?_eq_some_iff.1 hanswer
  rw [hnone depth] at hdepth
  cases hdepth

end ClassTable

end BundleBuilder
