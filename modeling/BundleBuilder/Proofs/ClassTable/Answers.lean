import BundleBuilder.ClassTable.Assignability

/-!
# Answers at greater depths

One round of the search for an answer either settles a question or hands it on to other questions
(`exists_reply`). Where these are answered, following the rules further changes nothing, so an answer
stays the same at every greater depth (`assignableWithin_mono`). The search that goes deeper and
deeper therefore gives an answer exactly if some depth does (`assignability?_eq_some_iff`).
-/

set_option autoImplicit false

namespace BundleBuilder.ClassTable

/-! ## Searching deeper -/

/-- If greater depths keep an answer, the search that goes deeper finds it wherever it starts. -/
theorem SearchByDepth.deepen?_eq_some_iff {α : Type} (search : SearchByDepth α)
    (hmono : ∀ depth answer, search depth = some answer →
      ∀ deeper ≥ depth, search deeper = some answer) (start : Nat) (answer : α) :
    search.deepen? start = some answer ↔ ∃ depth, search depth = some answer := by
  constructor
  · -- What the search gives comes from a depth that it has tried.
    refine deepen?.partial_correctness search
      (fun _ answer => ∃ depth, search depth = some answer) ?_ start answer
    intro deepen? ih depth answer hanswer
    cases hfound : search depth with
    | some found =>
      rw [hfound] at hanswer
      exact ⟨depth, hfound.trans hanswer⟩
    | none =>
      rw [hfound] at hanswer
      exact ih _ answer hanswer
  · rintro ⟨depth, hanswer⟩
    -- Each depth is greater than the one before, so the induction is on what is missing.
    induction hmissing : depth - start using Nat.strongRecOn generalizing start with
    | ind missing ih =>
      rw [deepen?]
      cases hfound : search start with
      | some found =>
        have hlater := hmono start found hfound (max start depth) (Nat.le_max_left _ _)
        rw [hmono depth answer hanswer (max start depth) (Nat.le_max_right _ _)] at hlater
        exact hlater.symm
      | none =>
        have hless : start < depth := by
          refine Nat.lt_of_not_le fun hle => ?_
          rw [hmono depth answer hanswer start hle] at hfound
          cases hfound
        exact ih (depth - 16 * (start + 1)) (by omega) _ rfl

/-! ## Asking for more -/

variable {ask more : JavaType → JavaType → Option Bool}

/-- Whatever is answered here is answered in the same way there. -/
def IsExtendedBy (ask more : JavaType → JavaType → Option Bool) : Prop :=
  ∀ source target answer, ask source target = some answer → more source target = some answer

theorem admits_mono (h : IsExtendedBy ask more) {target source : JavaType} {answer : Bool}
    (hanswer : admits ask target source = some answer) :
    admits more target source = some answer := by
  cases target with
  | wildcardExtends bound =>
    cases source with
    | wildcard | wildcardSuper _ => exact hanswer
    | _ => exact h _ _ _ hanswer
  | wildcardSuper bound =>
    cases source with
    | wildcard | wildcardExtends _ => exact hanswer
    | _ => exact h _ _ _ hanswer
  | _ => exact hanswer

theorem admitsAll_mono (h : IsExtendedBy ask more) {targets sources : List JavaType} {answer : Bool}
    (hanswer : admitsAll ask targets sources = some answer) :
    admitsAll more targets sources = some answer := by
  induction targets generalizing sources with
  | nil => exact hanswer
  | cons target targets ih =>
    cases sources with
    | nil => exact hanswer
    | cons source sources =>
      rw [admitsAll] at hanswer ⊢
      cases hfirst : admits ask target source with
      | none =>
        rw [hfirst] at hanswer
        cases hanswer
      | some first =>
        rw [hfirst] at hanswer
        rw [admits_mono h hfirst]
        cases first with
        | true => exact ih hanswer
        | false => exact hanswer

theorem anyAssignable_mono (h : IsExtendedBy ask more) {target : JavaType} {sources : List JavaType}
    {answer : Bool} (hanswer : anyAssignable ask target sources = some answer) :
    anyAssignable more target sources = some answer := by
  induction sources with
  | nil => exact hanswer
  | cons source sources ih =>
    rw [anyAssignable] at hanswer ⊢
    cases hfirst : ask source target with
    | none =>
      rw [hfirst] at hanswer
      cases hanswer
    | some first =>
      rw [hfirst] at hanswer
      rw [h _ _ _ hfirst]
      cases first with
      | true => exact hanswer
      | false => exact ih hanswer

theorem admitsView_mono (h : IsExtendedBy ask more) {targetArgs : List JavaType}
    {view : Option JavaType} {answer : Bool} (hanswer : admitsView ask targetArgs view = some answer) :
    admitsView more targetArgs view = some answer := by
  cases view with
  | none => exact hanswer
  | some view =>
    cases view with
    | declared name args =>
      rw [admitsView] at hanswer ⊢
      split at hanswer
      · next hraw => rwa [if_pos hraw]
      · next happlied =>
        rw [if_neg happlied]
        split at hanswer
        · next hlength =>
          rw [if_pos hlength]
          exact admitsAll_mono h hanswer
        · next hlength => rwa [if_neg hlength]
    | _ => exact hanswer

/-! ## One round -/

variable {table : ClassTable} {bounds : TypeBounds} {source target : JavaType}

/-- How one round answers a question, given the answers to other questions. -/
inductive Reply (table : ClassTable) (bounds : TypeBounds) :
    JavaType → JavaType → ((JavaType → JavaType → Option Bool) → Option Bool) → Prop where
  | settled {source target : JavaType} (answer : Bool) :
      Reply table bounds source target fun _ => some answer
  | boxed (kind : Primitive) (target : JavaType) :
      Reply table bounds (.primitive kind) target fun ask => ask (.named kind.boxName) target
  | uppers (name : String) (target : JavaType) :
      Reply table bounds (.typeVariable name) target fun ask =>
        anyAssignable ask target ((bounds.find? name).getD [])
  | elements (source target : JavaType) :
      Reply table bounds (.array source) (.array target) fun ask => ask source target
  | view (name target : String) (args targetArgs : List JavaType) :
      Reply table bounds (.declared name args) (.declared target targetArgs) fun ask =>
        admitsView ask targetArgs (table.supertypeAs? (.declared name args) target)

/-- A round goes from the answers at one depth to the answers at the next. -/
def IsRound (table : ClassTable) (bounds : TypeBounds) (source target : JavaType)
    (reply : (JavaType → JavaType → Option Bool) → Option Bool) : Prop :=
  ∀ depth, assignableWithin table bounds (depth + 1) source target =
    reply (assignableWithin table bounds depth)

variable (table bounds) in
theorem exists_reply_of_variable (name : String) (target : JavaType) :
    ∃ reply, Reply table bounds (.typeVariable name) target reply ∧
      IsRound table bounds (.typeVariable name) target reply := by
  by_cases hshort : (isObject target || target == .typeVariable name) = true
  · cases target with
    | typeVariable other => exact ⟨_, .settled true, fun _ => if_pos hshort⟩
    | declared other args => exact ⟨_, .settled true, fun _ => if_pos hshort⟩
    | _ => cases hshort
  · cases target with
    | void | wildcard | wildcardExtends _ | wildcardSuper _ | primitive _ =>
      exact ⟨_, .settled false, fun _ => rfl⟩
    | _ => exact ⟨_, .uppers name _, fun _ => if_neg (t := some true) hshort⟩

variable (table bounds) in
theorem exists_reply_of_array (element target : JavaType) :
    ∃ reply, Reply table bounds (.array element) target reply ∧
      IsRound table bounds (.array element) target reply := by
  cases target with
  | array other =>
    cases element with
    | primitive kind =>
      cases other with
      | primitive otherKind => exact ⟨_, .settled (kind == otherKind), fun _ => rfl⟩
      | _ => exact ⟨_, .settled false, fun _ => rfl⟩
    | _ =>
      cases other with
      | primitive otherKind => exact ⟨_, .settled false, fun _ => rfl⟩
      | _ => exact ⟨_, .elements _ _, fun _ => rfl⟩
  | declared name args => exact ⟨_, .settled _, fun _ => rfl⟩
  | _ => exact ⟨_, .settled false, fun _ => rfl⟩

variable (table bounds) in
theorem exists_reply_of_declared (name : String) (args : List JavaType) (target : JavaType) :
    ∃ reply, Reply table bounds (.declared name args) target reply ∧
      IsRound table bounds (.declared name args) target reply := by
  cases target with
  | declared other otherArgs =>
    by_cases hobject : isObject (.declared other otherArgs) = true
    · exact ⟨_, .settled true, fun _ => if_pos hobject⟩
    · exact ⟨_, .view name other args otherArgs, fun _ => if_neg hobject⟩
  | _ => exact ⟨_, .settled false, fun _ => rfl⟩

variable (table bounds) in
/-- Every question is settled in one round or handed on. -/
theorem exists_reply (source target : JavaType) :
    ∃ reply, Reply table bounds source target reply ∧
      IsRound table bounds source target reply := by
  cases source with
  | void | wildcard | wildcardExtends _ | wildcardSuper _ =>
    refine ⟨_, .settled false, fun _ => ?_⟩
    cases target <;> rfl
  | primitive kind =>
    cases target with
    | void | wildcard | wildcardExtends _ | wildcardSuper _ =>
      exact ⟨_, .settled false, fun _ => rfl⟩
    | primitive other => exact ⟨_, .settled (kind == other), fun _ => rfl⟩
    | _ => exact ⟨_, .boxed kind _, fun _ => rfl⟩
  | typeVariable name => exact exists_reply_of_variable table bounds name target
  | array element => exact exists_reply_of_array table bounds element target
  | declared name args => exact exists_reply_of_declared table bounds name args target

/-- A round answers what it answered before when more questions are answered. -/
theorem Reply.mono {reply : (JavaType → JavaType → Option Bool) → Option Bool}
    (hreply : Reply table bounds source target reply) (h : IsExtendedBy ask more) {answer : Bool}
    (hanswer : reply ask = some answer) : reply more = some answer := by
  cases hreply with
  | settled => exact hanswer
  | boxed => exact h _ _ _ hanswer
  | uppers => exact anyAssignable_mono h hanswer
  | elements => exact h _ _ _ hanswer
  | view => exact admitsView_mono h hanswer

/-! ## All depths -/

/-- An answer stays the same at every greater depth. -/
theorem assignableWithin_mono {depth : Nat} {answer : Bool}
    (hanswer : assignableWithin table bounds depth source target = some answer) :
    ∀ deeper ≥ depth, assignableWithin table bounds deeper source target = some answer := by
  induction depth generalizing source target answer with
  | zero => cases hanswer
  | succ depth ih =>
    intro deeper hdeeper
    obtain ⟨before, rfl⟩ : ∃ before, deeper = before + 1 := ⟨deeper - 1, by omega⟩
    obtain ⟨reply, hreply, hround⟩ := exists_reply table bounds source target
    rw [hround] at hanswer ⊢
    refine hreply.mono (fun source target answer hbefore => ?_) hanswer
    exact ih hbefore before (Nat.le_of_succ_le_succ hdeeper)

theorem isExtendedBy_of_le {depth deeper : Nat} (h : depth ≤ deeper) :
    IsExtendedBy (assignableWithin table bounds depth) (assignableWithin table bounds deeper) :=
  fun _ _ _ hanswer => assignableWithin_mono hanswer deeper h

/-- An answer is given exactly if the rules lead to it at some depth. -/
theorem assignability?_eq_some_iff {answer : Bool} :
    table.assignability? bounds source target = some answer ↔
      ∃ depth, assignableWithin table bounds depth source target = some answer := by
  have hdeepen := SearchByDepth.deepen?_eq_some_iff
    (fun depth => assignableWithin table bounds depth source target)
    (fun _ _ => assignableWithin_mono) (16 * assignabilityDepth bounds source target) answer
  rw [assignability?]
  cases hfirst : assignableWithin table bounds (assignabilityDepth bounds source target) source
      target with
  | none =>
    dsimp only
    exact hdeepen
  | some first =>
    dsimp only
    constructor
    · intro hsame
      exact ⟨_, hfirst.trans hsame⟩
    · rintro ⟨depth, hanswer⟩
      have hboth := Nat.le_max_left (assignabilityDepth bounds source target) depth
      rw [← assignableWithin_mono hfirst _ hboth]
      exact assignableWithin_mono hanswer _ (Nat.le_max_right _ _)

theorem isAssignable_of_within {depth : Nat} {answer : Bool}
    (hanswer : assignableWithin table bounds depth source target = some answer) :
    table.isAssignable bounds source target = answer := by
  rw [isAssignable, assignability?_eq_some_iff.2 ⟨depth, hanswer⟩]
  rfl

/-- One type can be assigned to another one exactly if the rules say so at some depth. -/
theorem isAssignable_eq_true_iff :
    table.isAssignable bounds source target = true ↔
      ∃ depth, assignableWithin table bounds depth source target = some true := by
  rw [← assignability?_eq_some_iff, isAssignable]
  cases table.assignability? bounds source target <;> simp

end BundleBuilder.ClassTable
