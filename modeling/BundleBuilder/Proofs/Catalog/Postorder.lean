import BundleBuilder.Table.Unseen
import Mathlib.Logic.Relation
import Mathlib.Tactic.Tauto

/-!
# Depth-first postorder

A graph gives each node the list of its targets. Going depth first through pending nodes, in their
order and passing over nodes that were seen, lists every node behind all that was entered from it. A
node counts as seen as soon as it is entered, so circles do no harm. There is at most one such list
(`Postorder.unique`), and in a finite graph there is one (`exists_postorder`). From a single node, with
nothing seen before, it contains exactly the nodes that can be reached, each of them once
(`Postorder.mem_iff_reaches`).
-/

set_option autoImplicit false

namespace BundleBuilder

open Table

/-- `Postorder next seen pending order`: the nodes that are entered when the pending nodes are gone
through, in the order in which they are left. -/
inductive Postorder (next : String → List String → Prop) :
    (seen pending order : List String) → Prop where
  | done (seen : List String) : Postorder next seen [] []
  | skip {seen pending order : List String} {node : String} :
      node ∈ seen → Postorder next seen pending order →
      Postorder next seen (node :: pending) order
  | enter {seen pending targets inner outer : List String} {node : String} :
      node ∉ seen → next node targets → Postorder next (node :: seen) targets inner →
      Postorder next (inner ++ node :: seen) pending outer →
      Postorder next seen (node :: pending) (inner ++ node :: outer)

namespace Postorder

variable {next : String → List String → Prop} {seen pending order : List String}

/-- It matters which nodes were seen, but not how they are listed. -/
theorem congr (h : Postorder next seen pending order) :
    ∀ {other : List String}, (∀ node, node ∈ seen ↔ node ∈ other) →
      Postorder next other pending order := by
  induction h with
  | done seen =>
    intro other _
    exact .done other
  | skip hseen _ ih =>
    intro other hsame
    exact .skip ((hsame _).1 hseen) (ih hsame)
  | @enter seen pending targets inner outer node hnew hnext _ _ ihInner ihOuter =>
    intro other hsame
    refine .enter (fun hmem => hnew ((hsame node).2 hmem)) hnext (ihInner ?_) (ihOuter ?_)
    · intro name
      simp [hsame]
    · intro name
      simp [hsame]

/-- Only new nodes are listed, each of them once. -/
theorem nodup_and_new (h : Postorder next seen pending order) :
    order.Nodup ∧ ∀ node ∈ order, node ∉ seen := by
  induction h with
  | done seen => simp
  | skip _ _ ih => exact ih
  | @enter seen pending targets inner outer node hnew _ _ _ ihInner ihOuter =>
    obtain ⟨hinner, hinnerNew⟩ := ihInner
    obtain ⟨houter, houterNew⟩ := ihOuter
    constructor
    · rw [List.nodup_append, List.nodup_cons]
      refine ⟨hinner, ⟨?_, houter⟩, ?_⟩
      · intro hmem
        apply houterNew node hmem
        simp
      · intro first hfirst second hsecond heq
        subst heq
        rcases List.mem_cons.1 hsecond with rfl | hsecond
        · apply hinnerNew first hfirst
          exact List.mem_cons_self
        · apply houterNew first hsecond
          exact List.mem_append_left _ hfirst
    · intro other hother hmem
      rcases List.mem_append.1 hother with hother | hother
      · exact hinnerNew other hother (List.mem_cons_of_mem _ hmem)
      · rcases List.mem_cons.1 hother with rfl | hother
        · exact hnew hmem
        · exact houterNew other hother (List.mem_append_right _ (List.mem_cons_of_mem _ hmem))

/-- Where every node has one list of targets, there is one list. -/
theorem unique (hfunctional : ∀ node targets others,
    next node targets → next node others → targets = others)
    (h : Postorder next seen pending order) :
    ∀ {other : List String}, Postorder next seen pending other → other = order := by
  induction h with
  | done seen =>
    intro other hother
    cases hother
    rfl
  | skip hseen _ ih =>
    intro other hother
    cases hother with
    | skip _ hrest => exact ih hrest
    | enter hnew => exact absurd hseen hnew
  | enter hnew hnext _ _ ihInner ihOuter =>
    intro other hother
    cases hother with
    | skip hseen _ => exact absurd hseen hnew
    | enter _ hothers hinner houter =>
      rw [hfunctional _ _ _ hothers hnext] at hinner
      rw [ihInner hinner] at houter ⊢
      rw [ihOuter houter]

/-! ## What is listed -/

variable {edge : String → String → Prop}

/-- Every listed node can be reached from a pending one. -/
theorem reaches_of_mem (hedge : ∀ node targets, next node targets → ∀ target ∈ targets, edge node target)
    (h : Postorder next seen pending order) :
    ∀ node ∈ order, ∃ start ∈ pending, Relation.ReflTransGen edge start node := by
  induction h with
  | done seen =>
    intro node hnode
    cases hnode
  | skip _ _ ih =>
    intro node hnode
    obtain ⟨start, hstart, hreaches⟩ := ih node hnode
    exact ⟨start, List.mem_cons_of_mem _ hstart, hreaches⟩
  | @enter seen pending targets inner outer entered _ hnext _ _ ihInner ihOuter =>
    intro node hnode
    rcases List.mem_append.1 hnode with hnode | hnode
    · obtain ⟨target, htarget, hreaches⟩ := ihInner node hnode
      exact ⟨entered, List.mem_cons_self,
        .head (hedge entered targets hnext target htarget) hreaches⟩
    · rcases List.mem_cons.1 hnode with rfl | hnode
      · exact ⟨node, List.mem_cons_self, .refl⟩
      · obtain ⟨start, hstart, hreaches⟩ := ihOuter node hnode
        exact ⟨start, List.mem_cons_of_mem _ hstart, hreaches⟩

/-- Nothing is left out: the pending nodes, and the targets of all listed nodes, are listed unless they
were seen before. -/
theorem closed (h : Postorder next seen pending order) :
    (∀ node ∈ pending, node ∈ seen ∨ node ∈ order) ∧
      ∀ node ∈ order, ∃ targets, next node targets ∧
        ∀ target ∈ targets, target ∈ seen ∨ target ∈ order := by
  induction h with
  | done seen => simp
  | skip hseen _ ih =>
    obtain ⟨hpending, horder⟩ := ih
    refine ⟨?_, horder⟩
    intro node hnode
    rcases List.mem_cons.1 hnode with rfl | hnode
    · exact .inl hseen
    · exact hpending node hnode
  | @enter seen pending targets inner outer entered _ hnext _ _ ihInner ihOuter =>
    obtain ⟨hinnerPending, hinner⟩ := ihInner
    obtain ⟨houterPending, houter⟩ := ihOuter
    have hafterInner : ∀ node, node ∈ entered :: seen ∨ node ∈ inner →
        node ∈ seen ∨ node ∈ inner ++ entered :: outer := by
      intro node hnode
      simp only [List.mem_cons, List.mem_append] at hnode ⊢
      tauto
    have hafterOuter : ∀ node, node ∈ inner ++ entered :: seen ∨ node ∈ outer →
        node ∈ seen ∨ node ∈ inner ++ entered :: outer := by
      intro node hnode
      simp only [List.mem_cons, List.mem_append] at hnode ⊢
      tauto
    constructor
    · intro node hnode
      rcases List.mem_cons.1 hnode with rfl | hnode
      · exact hafterInner node (.inl List.mem_cons_self)
      · exact hafterOuter node (houterPending node hnode)
    · intro node hnode
      rcases List.mem_append.1 hnode with hnode | hnode
      · obtain ⟨others, hothers, hlisted⟩ := hinner node hnode
        exact ⟨others, hothers, fun target htarget => hafterInner target (hlisted target htarget)⟩
      · rcases List.mem_cons.1 hnode with rfl | hnode
        · exact ⟨targets, hnext,
            fun target htarget => hafterInner target (hinnerPending target htarget)⟩
        · obtain ⟨others, hothers, hlisted⟩ := houter node hnode
          exact ⟨others, hothers,
            fun target htarget => hafterOuter target (hlisted target htarget)⟩

/-- From a single node exactly the nodes are listed that it reaches. -/
theorem mem_iff_reaches {root : String}
    (hedge : ∀ node targets, next node targets → ∀ target, edge node target ↔ target ∈ targets)
    (h : Postorder next [] [root] order) (node : String) :
    node ∈ order ↔ Relation.ReflTransGen edge root node := by
  obtain ⟨hroot, hclosed⟩ := h.closed
  constructor
  · intro hnode
    obtain ⟨start, hstart, hreaches⟩ := h.reaches_of_mem
      (fun node targets hnext target => (hedge node targets hnext target).2) node hnode
    rw [List.mem_singleton.1 hstart] at hreaches
    exact hreaches
  · intro hreaches
    induction hreaches with
    | refl => simpa using hroot root
    | tail _ hleads ih =>
      obtain ⟨targets, hnext, hlisted⟩ := hclosed _ ih
      simpa using hlisted _ ((hedge _ _ hnext _).1 hleads)

end Postorder

/-- The more was seen, the fewer names are unseen. -/
theorem unseen_le_of_subset {names seen more : List String} (h : ∀ name ∈ seen, name ∈ more) :
    unseen names more ≤ unseen names seen := by
  refine List.countP_mono_left fun name _ hname => ?_
  simp only [Bool.not_eq_true', List.contains_eq_mem, decide_eq_false_iff_not] at hname ⊢
  exact fun hmem => hname (h name hmem)

/-- If all nodes that can be reached are among finitely many and have targets, the pending nodes can be
gone through. -/
theorem exists_postorder {next : String → List String → Prop} {edge : String → String → Prop}
    (hedge : ∀ node targets, next node targets → ∀ target ∈ targets, edge node target)
    {nodes : List String} (bound : Nat) :
    ∀ {pending seen : List String}, unseen nodes seen < bound →
      (∀ start ∈ pending, ∀ node, Relation.ReflTransGen edge start node →
        node ∈ nodes ∧ ∃ targets, next node targets) →
      ∃ order, Postorder next seen pending order := by
  -- Entering a node leaves fewer nodes unseen, going on leaves fewer nodes pending.
  induction bound with
  | zero =>
    intro pending seen hbound
    exact absurd hbound (Nat.not_lt_zero _)
  | succ bound ihBound =>
    intro pending
    induction pending with
    | nil =>
      intro seen _ _
      exact ⟨[], .done seen⟩
    | cons node pending ih =>
      intro seen hbound hnodes
      obtain ⟨hpending, hrest⟩ := List.forall_mem_cons.1 hnodes
      by_cases hseen : node ∈ seen
      · obtain ⟨order, horder⟩ := ih hbound hrest
        exact ⟨order, .skip hseen horder⟩
      · obtain ⟨hnode, targets, hnext⟩ := hpending node .refl
        have hless := unseen_cons_lt hnode (by simpa using hseen : seen.contains node = false)
        have htargets : ∀ target ∈ targets, ∀ other,
            Relation.ReflTransGen edge target other →
            other ∈ nodes ∧ ∃ others, next other others := by
          intro target htarget other hreaches
          exact hpending other (.head (hedge node targets hnext target htarget) hreaches)
        obtain ⟨inner, hinner⟩ := ihBound (Nat.lt_of_lt_of_le hless (Nat.le_of_lt_succ hbound))
          htargets
        have hmore : unseen nodes (inner ++ node :: seen) ≤ unseen nodes seen := by
          apply unseen_le_of_subset
          intro other hother
          simp [hother]
        obtain ⟨outer, houter⟩ := ih (Nat.lt_of_le_of_lt hmore hbound) hrest
        exact ⟨inner ++ node :: outer, .enter hseen hnext hinner houter⟩

end BundleBuilder
