import BundleBuilder.Proofs.ClassTable.Termination
import BundleBuilder.Storage

/-!
# Finding the storage of a type comes to an end

Assignability and the containment of type arguments call each other (`calls`), and the calls that a
question leads to may have no end. The structural types of bundles have no lower bounded wildcards,
and a call with such a target leads to calls that are nested less deep (`NestsBelow.next`): a bound of
a type variable uses up a variable that did not occur before, a box uses up a primitive, and every
other call has a smaller target. No hierarchy of classes has a part in this, however its supertypes
are knotted.

So there is a depth, which depends on the number of type variables only, below which no call is made
when the storage of a type is looked for (`classification_ends`).
-/

set_option autoImplicit false

namespace BundleBuilder

open Relation

namespace ClassTable

variable {table : ClassTable} {bounds : TypeBounds}

/-! ## Calls -/

/-- A call of one of the two rules that call each other. -/
inductive Call where
  /-- Whether a value of one type may be assigned to a variable of another one. -/
  | assign (source target : JavaType)
  /-- Whether one type argument admits another one. -/
  | contain (target source : JavaType)

/-- The calls that a call makes at most: those that it makes if none of them settles its answer before
the others are made. -/
def calls (table : ClassTable) (bounds : TypeBounds) : Call → List Call
  | .assign (.primitive kind) target => [.assign (.named kind.boxName) target]
  | .assign (.typeVariable name) target =>
    ((bounds.find? name).getD []).map fun upper => .assign upper target
  | .assign (.array source) (.array target) => [.assign source target]
  | .assign (.declared name args) (.declared target targetArgs) =>
    match table.supertypeAs? (.declared name args) target with
    | some (.declared _ viewArgs) =>
      (targetArgs.zip viewArgs).map fun pair => .contain pair.1 pair.2
    | _ => []
  | .contain (.wildcardExtends bound) source => [.assign source.upperPart bound]
  | .contain (.wildcardSuper bound) source => [.assign bound source.lowerPart]
  | _ => []

/-- The number of calls that a call leads to, itself among them, where only those that are nested less
deep than the given depth are counted. -/
def callsWithin (table : ClassTable) (bounds : TypeBounds) : (depth : Nat) → Call → Nat
  | 0, _ => 0
  | depth + 1, call =>
    ((calls table bounds call).map (callsWithin table bounds depth)).foldr (· + ·) 1

/-- The answer to a call, with the rules followed to the given depth. -/
def answerWithin (table : ClassTable) (bounds : TypeBounds) (depth : Nat) : Call → Option Bool
  | .assign source target => table.assignableWithin bounds depth source target
  | .contain target source => admits (table.assignableWithin bounds depth) target source

/-- A call has an answer if the calls that it makes have answers. -/
theorem answerWithin_isSome {call : Call} {depth : Nat}
    (h : ∀ next ∈ calls table bounds call, (answerWithin table bounds depth next).isSome = true) :
    (answerWithin table bounds (depth + 1) call).isSome = true := by
  cases call with
  | assign source target =>
    obtain ⟨reply, hreply, hround⟩ := exists_reply table bounds source target
    rw [answerWithin, hround]
    cases hreply with
    | settled answer => rfl
    | boxed kind => exact h _ (List.mem_singleton_self _)
    | elements source target => exact h _ (List.mem_singleton_self _)
    | uppers name =>
      exact anyAssignable_isSome fun upper hmem => h (.assign upper target) (List.mem_map_of_mem hmem)
    | view name other args targetArgs =>
      refine admitsView_isSome_of_args fun viewName viewArgs hview pair hpair => ?_
      rw [calls, hview] at h
      exact h (.contain pair.1 pair.2) (List.mem_map_of_mem hpair)
  | contain target source =>
    rw [answerWithin]
    refine admits_isSome_of_bounds (fun bound hbound => ?_) fun bound hbound => ?_
    · subst hbound
      exact isSome_of_le (Nat.le_succ depth) (h _ (List.mem_singleton_self _))
    · subst hbound
      exact isSome_of_le (Nat.le_succ depth) (h _ (List.mem_singleton_self _))

/-! ## How deep calls are nested -/

/-- A call whose target has no lower bounded wildcard, and which has fewer calls nested in each other
ahead of it than the given depth. -/
def NestsBelow (bounds : TypeBounds) (depth : Nat) : Call → Prop
  | .assign source target =>
    Ranking.flat.rank target = 0 ∧
      ∃ seen, LedFrom bounds seen source ∧ ahead bounds seen ⟨source, target⟩ < depth
  | .contain target _ => Ranking.flat.rank target = 0 ∧ (bounds.length + 2) * target.size < depth

/-- What is ahead of a question is what its target leaves room for. -/
theorem ahead_lt (bounds : TypeBounds) (seen : List String) (source target : JavaType) :
    ahead bounds seen ⟨source, target⟩ < (bounds.length + 2) * (target.size + 1) := by
  have hrounds := roundsBefore_le bounds seen source
  rw [ahead, Nat.mul_succ]
  exact Nat.add_lt_add_left (Nat.lt_succ_of_le hrounds) _

theorem NestsBelow.of_flat {target : JavaType} (hflat : Ranking.flat.rank target = 0)
    (source : JavaType) :
    NestsBelow bounds ((bounds.length + 2) * (target.size + 1)) (.assign source target) :=
  ⟨hflat, [], ledFrom_nil source, ahead_lt bounds [] source target⟩

theorem NestsBelow.mono {call : Call} {depth deeper : Nat} (h : NestsBelow bounds depth call)
    (hle : depth ≤ deeper) : NestsBelow bounds deeper call := by
  cases call with
  | assign source target =>
    obtain ⟨hflat, seen, hled, hlt⟩ := h
    exact ⟨hflat, seen, hled, Nat.lt_of_lt_of_le hlt hle⟩
  | contain target source => exact ⟨h.1, Nat.lt_of_lt_of_le h.2 hle⟩

/-- Over bounds that form no cycle, the calls that a call makes are nested less deep. -/
theorem NestsBelow.next (hacyclic : ∀ name, ¬ TransGen (BoundedBy bounds) name name) {call : Call}
    {depth : Nat} (h : NestsBelow bounds (depth + 1) call) :
    ∀ next ∈ calls table bounds call, NestsBelow bounds depth next := by
  -- A call that keeps to the target's side is one of the questions that follow each other.
  have hfollows {source target nextSource nextTarget : JavaType}
      (hassign : NestsBelow bounds (depth + 1) (.assign source target))
      (hnext : Follows table bounds ⟨source, target⟩ ⟨nextSource, nextTarget⟩)
      (hflat : Ranking.flat.rank nextTarget = 0) :
      NestsBelow bounds depth (.assign nextSource nextTarget) := by
    obtain ⟨-, seen, hled, hlt⟩ := hassign
    obtain ⟨later, hlater, hless⟩ := hnext.ahead_lt hacyclic hled
    exact ⟨hflat, later, hlater, Nat.lt_of_lt_of_le hless (Nat.le_of_lt_succ hlt)⟩
  intro next hnext
  unfold calls at hnext
  split at hnext
  · next kind target =>
    rw [List.mem_singleton.1 hnext]
    exact hfollows h (.boxed kind target) h.1
  · next name target =>
    obtain ⟨upper, hmem, rfl⟩ := List.mem_map.1 hnext
    exact hfollows h (.upper target hmem) h.1
  · next source target =>
    rw [List.mem_singleton.1 hnext]
    exact hfollows h (.element source target) h.1
  · next name args target targetArgs =>
    split at hnext
    · next viewName viewArgs hview =>
      obtain ⟨pair, hpair, rfl⟩ := List.mem_map.1 hnext
      have harg := (List.of_mem_zip hpair).1
      obtain ⟨hflat, seen, -, hlt⟩ := h
      constructor
      · exact Nat.le_zero.1 (Nat.le_trans (Ranking.rank_le_rankAll harg)
          (Nat.le_trans (Nat.le_add_left _ _) (Nat.le_of_eq hflat)))
      · have hsize := JavaType.size_le_sizeList harg
        have hroom := Nat.mul_le_mul_left (bounds.length + 2) hsize
        rw [ahead, JavaType.size, Nat.mul_succ] at hlt
        omega
    · cases hnext
  · next bound source =>
    rw [List.mem_singleton.1 hnext]
    obtain ⟨hflat, hlt⟩ := h
    rw [JavaType.size] at hlt
    have hahead := ahead_lt bounds [] source.upperPart bound
    exact ⟨hflat, [], ledFrom_nil _, Nat.lt_of_lt_of_le hahead (Nat.le_of_lt_succ hlt)⟩
  -- A lower bounded wildcard, which would turn the question around, is excluded.
  · next bound source => cases h.1
  · cases hnext

theorem not_nestsBelow_zero (call : Call) : ¬ NestsBelow bounds 0 call := by
  cases call with
  | assign source target =>
    rintro ⟨-, seen, -, hlt⟩
    exact Nat.not_lt_zero _ hlt
  | contain target source => exact fun h => Nat.not_lt_zero _ h.2

/-- Calls that are nested less deep than a depth are all counted there. -/
theorem NestsBelow.callsWithin_eq (hacyclic : ∀ name, ¬ TransGen (BoundedBy bounds) name name)
    {call : Call} {depth : Nat} (h : NestsBelow bounds depth call) :
    ∀ deeper ≥ depth,
      callsWithin table bounds deeper call = callsWithin table bounds depth call := by
  induction depth generalizing call with
  | zero => exact absurd h (not_nestsBelow_zero call)
  | succ depth ih =>
    intro deeper hle
    obtain ⟨before, rfl⟩ : ∃ before, deeper = before + 1 := ⟨deeper - 1, by omega⟩
    have hcounts : (calls table bounds call).map (callsWithin table bounds before) =
        (calls table bounds call).map (callsWithin table bounds depth) :=
      List.map_congr_left fun next hnext =>
        ih (h.next hacyclic next hnext) before (Nat.le_of_succ_le_succ hle)
    rw [callsWithin, hcounts, callsWithin]

/-- Calls that are nested less deep than a depth are answered there. -/
theorem NestsBelow.answerWithin_isSome
    (hacyclic : ∀ name, ¬ TransGen (BoundedBy bounds) name name) {call : Call} {depth : Nat}
    (h : NestsBelow bounds depth call) : (answerWithin table bounds depth call).isSome = true := by
  induction depth generalizing call with
  | zero => exact absurd h (not_nestsBelow_zero call)
  | succ depth ih =>
    exact ClassTable.answerWithin_isSome fun next hnext => ih (h.next hacyclic next hnext)

end ClassTable

/-! ## Classification -/

namespace Storage

open ClassTable

/-- The storage of the first type in a list about which the answer is yes, if there are answers about
all types before it. -/
def firstWithin (ask : JavaType → Option Bool) : List (JavaType × Storage) → Option (Option Storage)
  | [] => some none
  | (target, storage) :: entries =>
    match ask target with
    | some true => some (some storage)
    | some false => firstWithin ask entries
    | none => none

/-- The storage of a type, with the rules of assignability followed to the given depth only; it is
not found where that depth is not enough. -/
def ofTypeWithin (table : ClassTable) (platform : Platform) (bounds : TypeBounds) (depth : Nat)
    (type : JavaType) : Option (Option Storage) :=
  match ElementKind.ofType? platform type with
  | some kind => some (some (single kind))
  | none =>
    match ofArray? platform type with
    | some storage => some (some storage)
    | none => firstWithin (table.assignableWithin bounds depth type) (structuralTypes platform)

theorem firstWithin_eq {ask : JavaType → Option Bool} {holds : JavaType → Bool}
    {entries : List (JavaType × Storage)} (h : ∀ entry ∈ entries, ask entry.1 = some (holds entry.1)) :
    firstWithin ask entries = some ((entries.find? fun entry => holds entry.1).map (·.2)) := by
  induction entries with
  | nil => rfl
  | cons entry entries ih =>
    obtain ⟨target, storage⟩ := entry
    obtain ⟨hfirst, hrest⟩ := List.forall_mem_cons.1 h
    dsimp only at hfirst
    rw [firstWithin, hfirst, List.find?_cons]
    cases holds target with
    | true => rfl
    | false => exact ih hrest

theorem find?_of_firstWithin {ask : JavaType → Option Bool} {holds : JavaType → Bool}
    {entries : List (JavaType × Storage)} {storage? : Option Storage}
    (hask : ∀ target answer, ask target = some answer → holds target = answer)
    (h : firstWithin ask entries = some storage?) :
    (entries.find? fun entry => holds entry.1).map (·.2) = storage? := by
  induction entries with
  | nil => exact Option.some.inj h
  | cons entry entries ih =>
    obtain ⟨target, storage⟩ := entry
    rw [firstWithin] at h
    cases hanswer : ask target with
    | none =>
      rw [hanswer] at h
      cases h
    | some answer =>
      rw [hanswer] at h
      rw [List.find?_cons, hask target answer hanswer]
      cases answer with
      | true => exact Option.some.inj h
      | false => exact ih h

/-- What is found at some depth is the storage of the type. -/
theorem ofType?_of_within {table : ClassTable} {platform : Platform} {bounds : TypeBounds}
    {depth : Nat} {type : JavaType} {storage? : Option Storage}
    (h : ofTypeWithin table platform bounds depth type = some storage?) :
    ofType? table platform bounds type = storage? := by
  rw [ofTypeWithin] at h
  rw [ofType?]
  cases hkind : ElementKind.ofType? platform type with
  | some kind =>
    rw [hkind] at h
    exact Option.some.inj h
  | none =>
    rw [hkind] at h
    cases harray : ofArray? platform type with
    | some storage =>
      rw [harray] at h
      exact Option.some.inj h
    | none =>
      rw [harray] at h
      exact find?_of_firstWithin (fun _ _ => isAssignable_of_within) h

/-- A depth below which no call is made to find the storage of a type. -/
def classificationDepth (bounds : TypeBounds) : Nat := (bounds.length + 2) * 4

theorem structuralTypes_flat (platform : Platform) :
    ∀ entry ∈ structuralTypes platform,
      Ranking.flat.rank entry.1 = 0 ∧ entry.1.size ≤ 3 := by
  simp [structuralTypes, listOf, JavaType.named, Ranking.rank, Ranking.rankAll, Ranking.flat,
    JavaType.size, JavaType.sizeList]

section Acyclic

variable (table : ClassTable) (platform : Platform) (bounds : TypeBounds)
  (hacyclic : ∀ name, ¬ TransGen (BoundedBy bounds) name name) (type : JavaType)

theorem nestsBelow_structural {entry : JavaType × Storage}
    (hentry : entry ∈ structuralTypes platform) :
    NestsBelow bounds (classificationDepth bounds) (.assign type entry.1) := by
  obtain ⟨hflat, hsize⟩ := structuralTypes_flat platform entry hentry
  exact (NestsBelow.of_flat hflat type).mono (Nat.mul_le_mul_left _ (Nat.succ_le_succ hsize))

include hacyclic

theorem assignableWithin_structural {entry : JavaType × Storage}
    (hentry : entry ∈ structuralTypes platform) {deeper : Nat}
    (hdeeper : deeper ≥ classificationDepth bounds) :
    table.assignableWithin bounds deeper type entry.1 =
      some (table.isAssignable bounds type entry.1) := by
  have hsome : (table.assignableWithin bounds (classificationDepth bounds) type entry.1).isSome =
      true := (nestsBelow_structural platform bounds type hentry).answerWithin_isSome hacyclic
  obtain ⟨answer, hanswer⟩ := Option.isSome_iff_exists.1 hsome
  rw [assignableWithin_mono hanswer deeper hdeeper, isAssignable_of_within hanswer]

/-- The rules followed deep enough lead to the storage of a type. -/
theorem ofTypeWithin_eq {deeper : Nat} (hdeeper : deeper ≥ classificationDepth bounds) :
    ofTypeWithin table platform bounds deeper type = some (ofType? table platform bounds type) := by
  rw [ofTypeWithin, ofType?]
  cases ElementKind.ofType? platform type with
  | some kind => rfl
  | none =>
    cases ofArray? platform type with
    | some storage => rfl
    | none =>
      exact firstWithin_eq fun entry hentry =>
        assignableWithin_structural table platform bounds hacyclic type hentry hdeeper

end Acyclic

/-- Over bounds of which those that are type variables form no cycle, the search for the storage of a
type comes to an end, whatever the classes are: a question about any of the structural types leads to
no calls that are nested deeper than a depth that depends on the number of bounds only, and so to
finitely many calls; all these questions have answers, and the rules followed to that depth lead to
the storage. -/
theorem classification_ends (table : ClassTable) (platform : Platform) (bounds : TypeBounds)
    (hacyclic : ∀ name, ¬ TransGen (BoundedBy bounds) name name) (type : JavaType) :
    (∀ entry ∈ structuralTypes platform,
      (∀ deeper ≥ classificationDepth bounds,
        callsWithin table bounds deeper (.assign type entry.1) =
          callsWithin table bounds (classificationDepth bounds) (.assign type entry.1)) ∧
      ∀ deeper ≥ classificationDepth bounds,
        table.assignableWithin bounds deeper type entry.1 =
          some (table.isAssignable bounds type entry.1)) ∧
    ∀ deeper ≥ classificationDepth bounds,
      ofTypeWithin table platform bounds deeper type =
        some (ofType? table platform bounds type) := by
  refine ⟨fun entry hentry => ⟨?_, fun deeper hdeeper => ?_⟩, fun deeper hdeeper => ?_⟩
  · exact (nestsBelow_structural platform bounds type hentry).callsWithin_eq hacyclic
  · exact assignableWithin_structural table platform bounds hacyclic type hentry hdeeper
  · exact ofTypeWithin_eq table platform bounds hacyclic type hdeeper

/-! ### Knots -/

/-- A variable for knots that can be compared with each other. -/
def knotBounds : TypeBounds :=
  [("K", [.named "Knot", .declared "java.lang.Comparable" [.typeVariable "K"]])]

/-- A platform whose lists are sinks, and whose parcels are sinks too. -/
def sinkPlatform : Platform := { arrayListClass := "Sink", parcelableClass := "Sink" }

theorem supertypeAs?_comparable (args : List JavaType) :
    knotClasses.supertypeAs? (.declared "java.lang.Comparable" args) "Sink" = none := by
  have hunknown : knotClasses.find? "java.lang.Comparable" = none := by decide +kernel
  rw [supertypeAs?, searchSupertype_declared, if_neg (by decide), if_neg (by decide), hunknown]
  dsimp only
  rw [searchSupertype]

/-- Whether a knot can be assigned to a sink depends on the type argument of the sink. -/
theorem assignableWithin_knot {depth : Nat} {target : JavaType} {answer : Bool}
    (h : admits (knotClasses.assignableWithin knotBounds depth) target (sinkOf (.named "Knot")) =
      some answer) :
    knotClasses.assignableWithin knotBounds (depth + 2) (.typeVariable "K")
      (.declared "Sink" [target]) = some answer := by
  have hvariable : knotClasses.assignableWithin knotBounds (depth + 2) (.typeVariable "K")
      (.declared "Sink" [target]) =
      anyAssignable (knotClasses.assignableWithin knotBounds (depth + 1)) (.declared "Sink" [target])
        [.named "Knot", .declared "java.lang.Comparable" [.typeVariable "K"]] := rfl
  have hclass (name : String) (args : List JavaType) :
      knotClasses.assignableWithin knotBounds (depth + 1) (.declared name args)
        (.declared "Sink" [target]) =
      admitsView (knotClasses.assignableWithin knotBounds depth) [target]
        (knotClasses.supertypeAs? (.declared name args) "Sink") := rfl
  have hview : admitsView (knotClasses.assignableWithin knotBounds depth) [target]
      (some (.declared "Sink" [sinkOf (.named "Knot")])) = some answer := by
    rw [admitsView, if_neg (by simp), if_pos (by rfl), admitsAll, h]
    cases answer <;> rfl
  rw [hvariable, anyAssignable, JavaType.named, hclass, supertypeAs?_knot, hview]
  cases answer with
  | true => rfl
  | false =>
    dsimp only
    rw [anyAssignable, hclass, supertypeAs?_comparable]
    rfl

/-- Although whether a knot is a sink of knots is a question without an end, the storage of a knot is
found: it is a sink of parcels, as a sink of anything is a parcel. -/
theorem classification_ends_knot :
    (∀ name, ¬ TransGen (BoundedBy knotBounds) name name) ∧
    ofTypeWithin knotClasses sinkPlatform knotBounds (classificationDepth knotBounds)
      (.typeVariable "K") = some (some parcelableList) ∧
    ofType? knotClasses sinkPlatform knotBounds (.typeVariable "K") = some parcelableList := by
  have hacyclic : ∀ name, ¬ TransGen (BoundedBy knotBounds) name name :=
    acyclic_of_no_variables (by decide)
  have hsink : knotClasses.assignableWithin knotBounds 10 (sinkOf (.named "Knot")) (.named "Sink") =
      some true := by
    have hview : knotClasses.assignableWithin knotBounds 10 (sinkOf (.named "Knot")) (.named "Sink") =
        admitsView (knotClasses.assignableWithin knotBounds 9) []
          (knotClasses.supertypeAs? (sinkOf (.named "Knot")) "Sink") := rfl
    rw [hview, sinkOf, supertypeAs?, searchSupertype_declared, if_pos rfl]
    rfl
  have hwithin : ofTypeWithin knotClasses sinkPlatform knotBounds (classificationDepth knotBounds)
      (.typeVariable "K") = some (some parcelableList) := by
    have hlist (target : JavaType) (answer : Bool)
        (h : admits (knotClasses.assignableWithin knotBounds 10) target (sinkOf (.named "Knot")) =
          some answer) :
        knotClasses.assignableWithin knotBounds (classificationDepth knotBounds) (.typeVariable "K")
          (listOf sinkPlatform target) = some answer := assignableWithin_knot h
    have hsearch : ofTypeWithin knotClasses sinkPlatform knotBounds (classificationDepth knotBounds)
        (.typeVariable "K") = firstWithin (knotClasses.assignableWithin knotBounds
          (classificationDepth knotBounds) (.typeVariable "K")) (structuralTypes sinkPlatform) := rfl
    rw [hsearch, structuralTypes, firstWithin, hlist _ false rfl]
    dsimp only
    rw [firstWithin, hlist _ false rfl]
    dsimp only
    rw [firstWithin, hlist _ false rfl]
    dsimp only
    rw [firstWithin, hlist (.wildcardExtends (.named sinkPlatform.parcelableClass)) true hsink]
  have hends := (classification_ends knotClasses sinkPlatform knotBounds hacyclic
    (.typeVariable "K")).2 _ (Nat.le_refl _)
  rw [hwithin] at hends
  exact ⟨hacyclic, hwithin, (Option.some.inj hends).symm⟩

end Storage

end BundleBuilder
