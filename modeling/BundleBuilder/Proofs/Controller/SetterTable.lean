import BundleBuilder.Proofs.Controller.Selection

/-!
# Which methods the setter table remembers

While levels are scanned, methods of one name compete for one place in the setter table. Neither
static nor private methods take part. The most visible method is kept, and among equally visible ones
the first in the order of the scan (`IsKept`), whatever their parameters are.

The table is described by the methods seen so far (`Remembers`). One more method keeps this
description, and so do the scans over the methods of a level and over levels.
-/

set_option autoImplicit false

namespace BundleBuilder.Controller

open Table

/-! ## What a scan of fields leaves alone -/

section Fields

variable {table : ClassTable} {platform : Platform} {controller : Controller}

/-- Adding an argument leaves the setters alone. -/
theorem setters_add {next : Controller} {field : ArgField} {required : Bool}
    (h : controller.add field required = .ok next) : next.setters = controller.setters := by
  obtain ⟨-, -, rfl⟩ := add_eq_ok_iff.1 h
  rfl

/-- A scan of a field adds at most one argument, which has neither a codec variable nor a setter. -/
theorem scanField_eq_ok {level : Level} {collection next : Collection} {fieldDecl : FieldDecl}
    (h : scanField table platform level collection fieldDecl = .ok next) :
    next.controller = collection.controller ∨
      ∃ field, field.codecVariable? = none ∧ field.setter? = none ∧
        collection.controller.add field field.required = .ok next.controller := by
  rw [scanField] at h
  split at h
  · rw [← Except.ok.inj h]
    exact .inl rfl
  · next marker hmarker =>
    split at h
    · rw [← Except.ok.inj h]
      exact .inl rfl
    · split at h
      · cases h
      · next field hargument =>
        rw [← Except.ok.inj h]
        have hmade : MarkedField.argument table platform collection.controller.typeBounds
            ⟨level, fieldDecl, marker⟩ = .ok field := hargument
        obtain ⟨-, -, -, hcodec, hsetter⟩ := argumentOf_eq_ok hmade
        have hwarn : (collection.warnSerializable field).controller = collection.controller := by
          rw [Collection.warnSerializable]
          split <;> rfl
        rw [Collection.record, Collection.enter, hwarn]
        cases hadd : collection.controller.add field field.required with
        | ok added =>
          rw [offer_of_add_eq_ok hadd]
          exact .inr ⟨field, hcodec, hsetter, hadd⟩
        | error error =>
          rw [offer_of_add_eq_error hadd]
          exact .inl rfl

/-- What adding an argument preserves, a scan of fields preserves. -/
theorem scanFields_preserves (holds : Controller → Prop)
    (hadd : ∀ {controller next : Controller} {field : ArgField}, holds controller →
      field.codecVariable? = none → field.setter? = none →
      controller.add field field.required = .ok next → holds next)
    {level : Level} {next : Collection} {fieldDecls : List FieldDecl} :
    ∀ {collection : Collection}, holds collection.controller →
      scanFields table platform level collection fieldDecls = .ok next →
      holds next.controller := by
  induction fieldDecls with
  | nil =>
    intro collection h hscan
    rw [← Except.ok.inj hscan]
    exact h
  | cons fieldDecl fieldDecls ih =>
    intro collection h hscan
    rw [Controller.scanFields] at hscan
    split at hscan
    · cases hscan
    · next middle hstep =>
      refine ih ?_ hscan
      rcases scanField_eq_ok hstep with hsame | ⟨field, hcodec, hsetter, hadded⟩
      · rw [hsame]
        exact h
      · exact hadd h hcodec hsetter hadded

theorem setters_scanFields {level : Level} {collection next : Collection}
    {fieldDecls : List FieldDecl}
    (h : scanFields table platform level collection fieldDecls = .ok next) :
    next.controller.setters = collection.controller.setters :=
  scanFields_preserves (fun controller => controller.setters = collection.controller.setters)
    (fun hbefore _ _ hadd => (setters_add hadd).trans hbefore) rfl h

end Fields

/-! ## Methods of levels -/

/-- A method at the level that declares it. -/
structure LevelMethod where
  level : Level
  decl : MethodDecl

namespace LevelMethod

/-- The types of the parameters, as the controller sees them. -/
def parameterTypes (method : LevelMethod) : List JavaType :=
  method.decl.parameters.map fun parameter => parameter.type.substitute method.level.bindings

/-- The setter that the method may be. -/
def candidate? (method : LevelMethod) : Option SetterCandidate :=
  candidateOf? method.level method.decl

/-- The number of the method's access level, which grows with the visibility. -/
def rank (method : LevelMethod) : Nat := method.decl.visibility.rank

/-- A method competes for a place in the setter table. -/
structure Competes (method : LevelMethod) : Prop where
  named : Text.hasPrefix "set" method.decl.name = true
  notStatic : .static ∉ method.decl.modifiers
  notPrivate : method.decl.visibility ≠ .privateAccess

theorem candidate?_eq_some_iff {method : LevelMethod} {candidate : SetterCandidate} :
    method.candidate? = some candidate ↔
      Text.hasPrefix "set" method.decl.name = true ∧ .static ∉ method.decl.modifiers ∧
      candidate = ⟨method.decl.name, method.level.decl.name, method.level.decl.package,
        method.decl.visibility, method.parameterTypes⟩ := by
  rw [candidate?, candidateOf?, Option.ite_none_right_eq_some, Bool.and_eq_true, decide_eq_true_iff,
    and_assoc, Option.some.injEq, eq_comm (b := candidate)]
  exact Iff.rfl

/-- The setter that a competing method is. -/
theorem Competes.exists_candidate {method : LevelMethod} (h : method.Competes) :
    ∃ candidate, method.candidate? = some candidate :=
  ⟨_, candidate?_eq_some_iff.2 ⟨h.named, h.notStatic, rfl⟩⟩

end LevelMethod

/-- The methods of levels: level after level, and in the order of declaration. -/
def levelMethods (levels : List Level) : List LevelMethod :=
  levels.flatMap fun level => level.decl.methods.map (LevelMethod.mk level)

theorem mem_levelMethods_iff {levels : List Level} {method : LevelMethod} :
    method ∈ levelMethods levels ↔
      method.level ∈ levels ∧ method.decl ∈ method.level.decl.methods := by
  obtain ⟨level, decl⟩ := method
  simp only [levelMethods, List.mem_flatMap, List.mem_map, LevelMethod.mk.injEq]
  constructor
  · rintro ⟨found, hlevel, declared, hdecl, rfl, rfl⟩
    exact ⟨hlevel, hdecl⟩
  · rintro ⟨hlevel, hdecl⟩
    exact ⟨level, hlevel, decl, hdecl, rfl, rfl⟩

/-! ## The method that is kept -/

/-- A method is kept if it competes, all competing methods of its name before it are less visible,
and none behind it is more visible. -/
def IsKept (methods : List LevelMethod) (kept : LevelMethod) : Prop :=
  kept.Competes ∧ ∃ before after, methods = before ++ kept :: after ∧
    (∀ other ∈ before, other.Competes → other.decl.name = kept.decl.name →
      other.rank < kept.rank) ∧
    ∀ other ∈ after, other.Competes → other.decl.name = kept.decl.name → other.rank ≤ kept.rank

namespace IsKept

variable {methods : List LevelMethod} {kept method : LevelMethod}

theorem mem (h : IsKept methods kept) : kept ∈ methods := by
  obtain ⟨-, before, after, rfl, -⟩ := h
  exact List.mem_append_right _ List.mem_cons_self

/-- No competing method of the name is more visible. -/
theorem rank_le (h : IsKept methods kept) (hmem : method ∈ methods) (hcompetes : method.Competes)
    (hname : method.decl.name = kept.decl.name) : method.rank ≤ kept.rank := by
  obtain ⟨-, before, after, rfl, hbefore, hafter⟩ := h
  rcases List.mem_append.1 hmem with hmem | hmem
  · exact Nat.le_of_lt (hbefore method hmem hcompetes hname)
  · rcases List.mem_cons.1 hmem with rfl | hmem
    · exact Nat.le_refl _
    · exact hafter method hmem hcompetes hname

/-- At most one method of a name is kept. -/
theorem unique {other : LevelMethod} (h : IsKept methods kept) (hother : IsKept methods other)
    (hname : kept.decl.name = other.decl.name) : kept = other := by
  have hle := hother.rank_le h.mem h.1 hname
  have hge := h.rank_le hother.mem hother.1 hname.symm
  obtain ⟨hcompetes, before, after, hmethods, hbefore, -⟩ := h
  obtain ⟨hotherCompetes, otherBefore, otherAfter, hotherMethods, hotherBefore, -⟩ := hother
  -- Both are equally visible, so neither stands before the other.
  rw [hmethods] at hotherMethods
  rcases List.append_eq_append_iff.1 hotherMethods with
    ⟨between, hlater, hrest⟩ | ⟨between, hearlier, hrest⟩
  · cases between with
    | nil => exact (List.cons.inj hrest).1
    | cons first between =>
      obtain ⟨rfl, -⟩ := List.cons.inj hrest
      have hmem : kept ∈ otherBefore := by
        rw [hlater]
        exact List.mem_append_right _ List.mem_cons_self
      have hlt := hotherBefore kept hmem hcompetes hname
      omega
  · cases between with
    | nil => exact (List.cons.inj hrest).1.symm
    | cons first between =>
      obtain ⟨rfl, -⟩ := List.cons.inj hrest
      have hmem : other ∈ before := by
        rw [hearlier]
        exact List.mem_append_right _ List.mem_cons_self
      have hlt := hbefore other hmem hotherCompetes hname.symm
      omega

/-- A further method that is not more visible changes nothing. -/
theorem concat (h : IsKept methods kept)
    (hmethod : method.Competes → method.decl.name = kept.decl.name → method.rank ≤ kept.rank) :
    IsKept (methods ++ [method]) kept := by
  obtain ⟨hcompetes, before, after, rfl, hbefore, hafter⟩ := h
  refine ⟨hcompetes, before, after ++ [method], ?_, hbefore, fun other hmem => ?_⟩
  · rw [List.append_assoc, List.cons_append]
  · rcases List.mem_append.1 hmem with hmem | hmem
    · exact hafter other hmem
    · rw [List.mem_singleton.1 hmem]
      exact hmethod

/-- A further method is kept if it is more visible than those of its name before. -/
theorem last (hcompetes : method.Competes)
    (hmethods : ∀ other ∈ methods, other.Competes → other.decl.name = method.decl.name →
      other.rank < method.rank) : IsKept (methods ++ [method]) method :=
  ⟨hcompetes, methods, [], rfl, hmethods, fun _ hmem => nomatch hmem⟩

end IsKept

/-! ## The table -/

/-- Under each name, a controller remembers the method of that name that is kept. -/
structure Remembers (methods : List LevelMethod) (controller : Controller) : Prop where
  kept {name : String} {candidate : SetterCandidate} :
    controller.setter? name = some candidate →
      ∃ method, IsKept methods method ∧ method.decl.name = name ∧ method.candidate? = some candidate
  missing {name : String} :
    controller.setter? name = none → ∀ method ∈ methods, method.Competes → method.decl.name ≠ name

/-- The controller after a method was looked at. -/
def remember (controller : Controller) (method : LevelMethod) : Controller :=
  match method.candidate? with
  | some candidate => controller.registerSetter candidate
  | none => controller

theorem scanSetters_eq_foldl (controller : Controller) (level : Level) :
    controller.scanSetters level
      = (level.decl.methods.map (LevelMethod.mk level)).foldl remember controller := by
  rw [scanSetters, List.foldl_filterMap, List.foldl_map]
  congr 1
  funext controller decl
  rw [remember, LevelMethod.candidate?]
  cases candidateOf? level decl <;> rfl

namespace Remembers

variable {methods : List LevelMethod} {controller : Controller} {method : LevelMethod}

theorem congr {next : Controller} (h : Remembers methods controller)
    (hsetters : next.setters = controller.setters) : Remembers methods next := by
  have hfound : ∀ name, next.setter? name = controller.setter? name := by
    intro name
    rw [setter?, hsetters]
    rfl
  constructor
  · intro name candidate hcandidate
    rw [hfound] at hcandidate
    exact h.kept hcandidate
  · intro name hnone
    rw [hfound] at hnone
    exact h.missing hnone

/-- A name under which nothing is kept stays so if a further method of the name does not compete. -/
theorem missing_concat (h : Remembers methods controller) {name : String}
    (hnone : controller.setter? name = none)
    (hmethod : method.Competes → method.decl.name ≠ name) :
    ∀ other ∈ methods ++ [method], other.Competes → other.decl.name ≠ name := by
  intro other hmem
  rcases List.mem_append.1 hmem with hmem | hmem
  · exact h.missing hnone other hmem
  · rw [List.mem_singleton.1 hmem]
    exact hmethod

/-- A further method changes nothing if its name has a setter that is at least as visible, or if it
does not compete. -/
theorem pass (h : Remembers methods controller)
    (hmethod : method.Competes → ∃ candidate, controller.setter? method.decl.name = some candidate ∧
      method.rank ≤ candidate.visibility.rank) :
    Remembers (methods ++ [method]) controller := by
  constructor
  · intro name candidate hcandidate
    obtain ⟨kept, hkept, rfl, hregistered⟩ := h.kept hcandidate
    refine ⟨kept, hkept.concat fun hcompetes hname => ?_, rfl, hregistered⟩
    obtain ⟨existing, hexisting, hle⟩ := hmethod hcompetes
    rw [hname, hcandidate] at hexisting
    obtain rfl := Option.some.inj hexisting
    obtain ⟨-, -, rfl⟩ := LevelMethod.candidate?_eq_some_iff.1 hregistered
    exact hle
  · intro name hnone
    refine h.missing_concat hnone fun hcompetes hname => ?_
    obtain ⟨existing, hexisting, -⟩ := hmethod hcompetes
    rw [hname, hnone] at hexisting
    cases hexisting

/-- A further method takes the place of its name if it is more visible than what has it. -/
theorem replace (h : Remembers methods controller) (hcompetes : method.Competes)
    {candidate : SetterCandidate} (hcandidate : method.candidate? = some candidate)
    (hmore : ∀ existing, controller.setter? method.decl.name = some existing →
      existing.visibility.rank < method.rank) :
    Remembers (methods ++ [method])
      { controller with
        setters := controller.setters.insert method.decl.name candidate } := by
  have hfound : ∀ name, ({ controller with
        setters := controller.setters.insert method.decl.name candidate } : Controller).setter? name
      = if name = method.decl.name then some candidate else controller.setter? name :=
    fun name => InsertionTable.find?_insert _ _ _ _
  constructor
  · intro name found hname
    rw [hfound] at hname
    split at hname
    · next hself =>
      rw [← Option.some.inj hname]
      refine ⟨method, .last hcompetes fun other hmem hother hsame => ?_, hself.symm, hcandidate⟩
      cases hexisting : controller.setter? method.decl.name with
      | none => exact absurd hsame (h.missing hexisting other hmem hother)
      | some existing =>
        obtain ⟨kept, hkept, hkeptName, hregistered⟩ := h.kept hexisting
        obtain ⟨-, -, rfl⟩ := LevelMethod.candidate?_eq_some_iff.1 hregistered
        exact Nat.lt_of_le_of_lt (hkept.rank_le hmem hother (hsame.trans hkeptName.symm))
          (hmore _ hexisting)
    · next hother =>
      obtain ⟨kept, hkept, rfl, hregistered⟩ := h.kept hname
      exact ⟨kept, hkept.concat fun _ hsame => absurd hsame.symm hother, rfl, hregistered⟩
  · intro name hnone
    rw [hfound] at hnone
    split at hnone
    · cases hnone
    · next hother => exact h.missing_concat hnone fun _ hsame => hother hsame.symm

/-- One more method keeps the description of the table. -/
theorem remember (h : Remembers methods controller) (method : LevelMethod) :
    Remembers (methods ++ [method]) (controller.remember method) := by
  rw [Controller.remember]
  cases hcandidate : method.candidate? with
  | none =>
    refine h.pass fun hcompetes => ?_
    obtain ⟨candidate, hsome⟩ := hcompetes.exists_candidate
    rw [hcandidate] at hsome
    cases hsome
  | some candidate =>
    obtain ⟨hnamed, hstatic, rfl⟩ := LevelMethod.candidate?_eq_some_iff.1 hcandidate
    dsimp only
    rw [registerSetter]
    split
    · next hregister =>
      obtain ⟨hprivate, hmore⟩ := hregister
      refine h.replace ⟨hnamed, hstatic, hprivate⟩ hcandidate fun existing hexisting => ?_
      rw [setter?] at hexisting
      rw [isMoreVisible, hexisting] at hmore
      have hless : ¬ method.decl.visibility ≤ existing.visibility := by simpa using hmore
      exact Nat.lt_of_not_le hless
    · next hpass =>
      refine h.pass fun hcompetes => ?_
      rw [not_and, isMoreVisible] at hpass
      have hmore := hpass hcompetes.notPrivate
      cases hexisting : controller.setters.find? method.decl.name with
      | none =>
        rw [hexisting] at hmore
        exact absurd rfl hmore
      | some existing =>
        rw [hexisting] at hmore
        have hle : method.decl.visibility ≤ existing.visibility := by simpa using hmore
        exact ⟨existing, hexisting, hle⟩

/-- So do the methods of a level. -/
theorem scanSetters (h : Remembers methods controller) (level : Level) :
    Remembers (methods ++ level.decl.methods.map (LevelMethod.mk level))
      (controller.scanSetters level) := by
  rw [scanSetters_eq_foldl]
  generalize level.decl.methods.map (LevelMethod.mk level) = more
  induction more generalizing methods controller with
  | nil =>
    rw [List.append_nil]
    exact h
  | cons method more ih =>
    rw [List.foldl_cons, List.append_cons]
    exact ih (h.remember method)

/-- The setter table describes the methods of all levels that were scanned. -/
theorem scanLevels {table : ClassTable} {platform : Platform} {levels : List Level}
    {next : Collection} :
    ∀ {methods : List LevelMethod} {collection : Collection},
      Remembers methods collection.controller →
      scanLevels table platform collection levels = .ok next →
      Remembers (methods ++ levelMethods levels) next.controller := by
  induction levels with
  | nil =>
    intro methods collection h hscan
    rw [← Except.ok.inj hscan, levelMethods, List.flatMap_nil, List.append_nil]
    exact h
  | cons level levels ih =>
    intro methods collection h hscan
    rw [Controller.scanLevels] at hscan
    split at hscan
    · cases hscan
    · next middle hfields =>
      rw [levelMethods, List.flatMap_cons, ← List.append_assoc]
      exact ih ((h.congr (setters_scanFields hfields)).scanSetters level) hscan

end Remembers

end BundleBuilder.Controller
