import BundleBuilder.Proofs.Controller.History
import BundleBuilder.Proofs.Controller.Resolution
import Mathlib.Data.List.MinMax

/-!
# The setter table selects by visibility

Setters are offered one at a time, between other changes, and the table keeps one of each name. What
it keeps is a selection from everything that was offered so far: among the setters of a name that are
not private, the first one of the greatest visibility (`mostVisible?`). The names stand in the order in
which they were first offered by a setter that is not private.

One more offer turns a table that makes this selection into one that makes it with the offer
(`Selects.registerSetter`), and the other changes do not touch the table, so every history ends with
the selection (`setters_replay`).
-/

set_option autoImplicit false

namespace BundleBuilder.Controller

open Table

/-! ## The selection -/

/-- The setter that a change offers. -/
def Change.candidate? : Change → Option SetterCandidate
  | .registerSetter candidate => some candidate
  | .addRequired _ | .addOptional _ | .assignSetter _ _ => none

/-- The setters that changes offer, in the order of the changes. -/
def offeredSetters (changes : List Change) : List SetterCandidate :=
  changes.filterMap Change.candidate?

/-- The setters of a list that are not private. -/
def selectable (candidates : List SetterCandidate) : List SetterCandidate :=
  candidates.filter fun candidate => candidate.visibility ≠ .privateAccess

/-- The setters of a list that compete for a name. -/
def contenders (name : String) (candidates : List SetterCandidate) : List SetterCandidate :=
  (selectable candidates).filter fun candidate => candidate.name = name

/-- The first of the most visible setters of a list. -/
def mostVisible? (candidates : List SetterCandidate) : Option SetterCandidate :=
  candidates.argmax fun candidate => candidate.visibility.rank

variable {candidates : List SetterCandidate} {candidate best : SetterCandidate} {name : String}
  {controller : Controller}

theorem mem_contenders_iff :
    candidate ∈ contenders name candidates ↔
      candidate ∈ candidates ∧ candidate.visibility ≠ .privateAccess ∧ candidate.name = name := by
  rw [contenders, selectable, List.mem_filter, List.mem_filter, decide_eq_true_iff,
    decide_eq_true_iff, and_assoc]

theorem mostVisible?_eq_some_iff :
    mostVisible? candidates = some best ↔
      best ∈ candidates ∧
      (∀ other ∈ candidates, other.visibility ≤ best.visibility) ∧
      ∀ other ∈ candidates, best.visibility ≤ other.visibility →
        candidates.idxOf best ≤ candidates.idxOf other :=
  List.argmax_eq_some_iff

/-- Nothing is selected for a name exactly if all its setters are private. -/
theorem mostVisible?_contenders_eq_none_iff :
    mostVisible? (contenders name candidates) = none ↔
      ∀ candidate ∈ candidates, candidate.name = name → candidate.visibility = .privateAccess := by
  rw [mostVisible?, List.argmax_eq_none, List.eq_nil_iff_forall_not_mem]
  refine forall_congr' fun candidate => ?_
  rw [mem_contenders_iff]
  tauto

/-- A further setter is selected if it is more visible than the one selected before. -/
theorem mostVisible?_concat (candidates : List SetterCandidate) (candidate : SetterCandidate) :
    mostVisible? (candidates ++ [candidate]) =
      match mostVisible? candidates with
      | none => some candidate
      | some best => if candidate.visibility ≤ best.visibility then some best else some candidate := by
  rw [mostVisible?, List.argmax_concat, ← mostVisible?]
  cases mostVisible? candidates with
  | none => rfl
  | some best =>
    dsimp only
    by_cases hle : candidate.visibility ≤ best.visibility
    · rw [if_pos hle, if_neg (Nat.not_lt_of_le hle)]
    · rw [if_neg hle, if_pos (Nat.lt_of_not_le hle)]

theorem selectable_concat_private (hprivate : candidate.visibility = .privateAccess) :
    selectable (candidates ++ [candidate]) = selectable candidates := by
  rw [selectable, List.filter_append, List.filter_singleton, hprivate]
  exact List.append_nil _

theorem selectable_concat (hprivate : candidate.visibility ≠ .privateAccess) :
    selectable (candidates ++ [candidate]) = selectable candidates ++ [candidate] := by
  rw [selectable, List.filter_append, List.filter_singleton, decide_eq_true hprivate]
  rfl

/-- A further setter that is not private competes for its own name only. -/
theorem contenders_concat (hprivate : candidate.visibility ≠ .privateAccess) (name : String) :
    contenders name (candidates ++ [candidate]) =
      if name = candidate.name then contenders name candidates ++ [candidate]
      else contenders name candidates := by
  rw [contenders, selectable_concat hprivate, List.filter_append, List.filter_singleton]
  split
  · next hname =>
    rw [decide_eq_true hname.symm]
    rfl
  · next hname =>
    rw [decide_eq_false (Ne.symm hname)]
    exact List.append_nil _

/-! ## The table -/

theorem isMoreVisible_of_none (hfound : controller.setter? candidate.name = none) :
    controller.isMoreVisible candidate = true := by
  rw [setter?] at hfound
  rw [isMoreVisible, hfound]

theorem isMoreVisible_iff (hfound : controller.setter? candidate.name = some best) :
    controller.isMoreVisible candidate = true ↔ ¬ candidate.visibility ≤ best.visibility := by
  rw [setter?] at hfound
  rw [isMoreVisible, hfound, Bool.not_eq_true', decide_eq_false_iff_not]

/-- The table holds the selection from a list of setters. -/
structure Selects (candidates : List SetterCandidate) (controller : Controller) : Prop where
  setter?_eq (name : String) : controller.setter? name = mostVisible? (contenders name candidates)
  keys_eq : controller.setters.keys
    = ((selectable candidates).map SetterCandidate.name).eraseDups

namespace Selects

theorem congr {next : Controller} (h : Selects candidates controller)
    (hsetters : next.setters = controller.setters) : Selects candidates next where
  setter?_eq name := by
    rw [← h.setter?_eq name, setter?, hsetters]
    rfl
  keys_eq := by rw [hsetters, h.keys_eq]

/-- A private setter is passed over. -/
theorem skip (h : Selects candidates controller) (hprivate : candidate.visibility = .privateAccess) :
    Selects (candidates ++ [candidate]) controller where
  setter?_eq name := by
    rw [contenders, selectable_concat_private hprivate]
    exact h.setter?_eq name
  keys_eq := by rw [selectable_concat_private hprivate, h.keys_eq]

/-- The names with a further setter: its own name comes last if it is new. -/
theorem eraseDups_concat (h : Selects candidates controller)
    (hprivate : candidate.visibility ≠ .privateAccess) :
    ((selectable (candidates ++ [candidate])).map SetterCandidate.name).eraseDups =
      if candidate.name ∈ controller.setters.keys then controller.setters.keys
      else controller.setters.keys ++ [candidate.name] := by
  have hconcat := eraseDups_append_toList ((selectable candidates).map SetterCandidate.name)
    (some candidate.name)
  rw [selectable_concat hprivate, List.map_append]
  rw [← h.keys_eq] at hconcat
  refine hconcat.trans ?_
  by_cases hmem : candidate.name ∈ controller.setters.keys
  · simp [List.removeAll, hmem]
  · simp [List.removeAll, hmem]

/-- A setter that is selected over the others of its name takes their place. -/
theorem replace (h : Selects candidates controller)
    (hprivate : candidate.visibility ≠ .privateAccess)
    (hselected : mostVisible? (contenders candidate.name candidates ++ [candidate])
      = some candidate) :
    Selects (candidates ++ [candidate])
      { controller with setters := controller.setters.insert candidate.name candidate } where
  setter?_eq name := by
    rw [contenders_concat hprivate]
    refine (InsertionTable.find?_insert _ _ _ name).trans ?_
    by_cases hname : name = candidate.name
    · rw [if_pos hname, if_pos hname, hname, hselected]
    · rw [if_neg hname, if_neg hname]
      exact h.setter?_eq name
  keys_eq := by
    rw [h.eraseDups_concat hprivate]
    exact InsertionTable.keys_insert _ _ _

/-- A setter that is not selected leaves the table as it is. -/
theorem keep (h : Selects candidates controller) (hprivate : candidate.visibility ≠ .privateAccess)
    (hfound : controller.setter? candidate.name = some best)
    (hselected : mostVisible? (contenders candidate.name candidates ++ [candidate]) = some best) :
    Selects (candidates ++ [candidate]) controller where
  setter?_eq name := by
    rw [contenders_concat hprivate]
    by_cases hname : name = candidate.name
    · rw [if_pos hname, hname, hselected, hfound]
    · rw [if_neg hname]
      exact h.setter?_eq name
  keys_eq := by
    rw [h.eraseDups_concat hprivate, if_pos (InsertionTable.mem_keys_of_find? hfound)]

/-- One more offer: the table makes the selection with it. -/
theorem registerSetter (h : Selects candidates controller) (candidate : SetterCandidate) :
    Selects (candidates ++ [candidate]) (controller.registerSetter candidate) := by
  rw [Controller.registerSetter]
  by_cases hprivate : candidate.visibility = .privateAccess
  · rw [if_neg fun hboth => hboth.1 hprivate]
    exact h.skip hprivate
  · have hbest := mostVisible?_concat (contenders candidate.name candidates) candidate
    rw [← h.setter?_eq] at hbest
    cases hfound : controller.setter? candidate.name with
    | none =>
      rw [hfound] at hbest
      rw [if_pos ⟨hprivate, isMoreVisible_of_none hfound⟩]
      exact h.replace hprivate hbest
    | some existing =>
      rw [hfound] at hbest
      dsimp only at hbest
      by_cases hle : candidate.visibility ≤ existing.visibility
      · rw [if_pos hle] at hbest
        rw [if_neg fun hboth => (isMoreVisible_iff hfound).1 hboth.2 hle]
        exact h.keep hprivate hfound hbest
      · rw [if_neg hle] at hbest
        rw [if_pos ⟨hprivate, (isMoreVisible_iff hfound).2 hle⟩]
        exact h.replace hprivate hbest

end Selects

theorem offeredSetters_concat (changes : List Change) (next : Change) :
    offeredSetters (changes ++ [next]) = offeredSetters changes ++ next.candidate?.toList := by
  rw [offeredSetters, List.filterMap_append, List.filterMap_cons, List.filterMap_nil]
  cases next.candidate? <;> rfl

/-- A change that offers no setter leaves the table alone. -/
theorem setters_change {next : Change} (hnone : next.candidate? = none) :
    (controller.change next).1.setters = controller.setters := by
  rcases change_cases controller next with
    ⟨field, required, added, -, hadd, heq⟩ | ⟨field, required, error, -, -, heq⟩ |
    ⟨candidate, rfl, -⟩ | ⟨varName, setter, -, heq⟩
  · rw [heq]
    exact setters_add hadd
  · rw [heq]
  · cases hnone
  · rw [heq]
    exact setters_assignSetter controller varName setter

/-- After every history the table holds the selection from the setters that were offered. -/
theorem selects_replay (decl : ClassDecl) (inherited : Bool) (changes : List Change) :
    Selects (offeredSetters changes) (replay (ofClass decl inherited) changes) := by
  -- From the end of the history, as the last offer is compared with the selection so far.
  induction changes using List.reverseRecOn with
  | nil => exact ⟨fun _ => rfl, rfl⟩
  | append_singleton changes next ih =>
    rw [replay_concat, offeredSetters_concat]
    cases hnext : next.candidate? with
    | none =>
      rw [Option.toList_none, List.append_nil]
      exact ih.congr (setters_change hnext)
    | some candidate =>
      cases next with
      | registerSetter offered =>
        rw [← Option.some.inj hnext]
        exact ih.registerSetter offered
      | addRequired | addOptional | assignSetter => cases hnext

/-- However many changes of other kinds stand between the offers, and in whatever order setters come:
the setter of a name is the first one of the greatest visibility among those that were offered under
the name, where private ones do not count and public stands over package and package over protected;
there is none exactly if all of them are private; and the names are those of the setters that are not
private, in the order in which they first came. -/
theorem setters_replay (decl : ClassDecl) (inherited : Bool) (changes : List Change) :
    let controller := replay (ofClass decl inherited) changes
    let candidates := offeredSetters changes
    (∀ name, controller.setter? name = mostVisible? (contenders name candidates)) ∧
    (∀ name best, controller.setter? name = some best ↔
      best ∈ contenders name candidates ∧
      (∀ other ∈ contenders name candidates, other.visibility ≤ best.visibility) ∧
      ∀ other ∈ contenders name candidates, best.visibility ≤ other.visibility →
        (contenders name candidates).idxOf best ≤ (contenders name candidates).idxOf other) ∧
    (Visibility.protectedAccess.rank < Visibility.packageAccess.rank ∧
      Visibility.packageAccess.rank < Visibility.publicAccess.rank) ∧
    (∀ name, controller.setter? name = none ↔
      ∀ candidate ∈ candidates, candidate.name = name →
        candidate.visibility = .privateAccess) ∧
    controller.setters.keys = ((selectable candidates).map SetterCandidate.name).eraseDups := by
  intro controller candidates
  have hselects : Selects candidates controller := selects_replay decl inherited changes
  refine ⟨hselects.setter?_eq, fun name best => ?_, by decide, fun name => ?_, hselects.keys_eq⟩
  · rw [hselects.setter?_eq, mostVisible?_eq_some_iff]
  · rw [hselects.setter?_eq, mostVisible?_contenders_eq_none_iff]

end BundleBuilder.Controller
