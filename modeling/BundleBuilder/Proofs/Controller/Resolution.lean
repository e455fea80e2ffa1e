import BundleBuilder.Proofs.Controller.SetterTable

/-!
# How setters are resolved

After the levels were scanned, every argument that cannot be assigned directly is given a setter: the
first of its names under which the setter table has a method that takes exactly its type and can be
used from the package of the controller (`resolveSetter_eq_ok`). No other argument changes
(`resolved_argument`). A collection comes to this point with arguments that have no setters yet and
with a table of the methods that are kept (`IsScanned`); it succeeds if every argument that needs a
setter is given one, and otherwise the error is about an argument for which the table has none.
-/

set_option autoImplicit false

namespace BundleBuilder

/-! ## What may be used -/

/-- A member can be used from a package: it is public, or not private and of the same package. -/
def Visibility.IsOpen (visibility : Visibility) (ownPackage usingPackage : String) : Prop :=
  visibility = .publicAccess ∨ (visibility ≠ .privateAccess ∧ ownPackage = usingPackage)

theorem Visibility.permits_iff {visibility : Visibility} {ownPackage usingPackage : String} :
    visibility.permits ownPackage usingPackage = true ↔
      visibility.IsOpen ownPackage usingPackage := by
  cases visibility <;> simp [permits, IsOpen]

/-- A remembered setter can assign a value of a type from a package. -/
structure SetterCandidate.Fits (package : String) (type : JavaType) (candidate : SetterCandidate) :
    Prop where
  takes : candidate.parameters = [type]
  isOpen : candidate.visibility.IsOpen candidate.classPackage package

/-! ## Names of setters -/

theorem mem_of_mem_withoutRepeats {names : List String} {name : String}
    (h : name ∈ withoutRepeats names) : name ∈ names := by
  induction names using withoutRepeats.induct with
  | case1 => exact h
  | case2 only => exact h
  | case3 first rest ih =>
    rw [withoutRepeats, if_pos rfl] at h
    exact List.mem_cons_of_mem _ (ih h)
  | case4 first next rest hne ih =>
    rw [withoutRepeats, if_neg hne] at h
    rcases List.mem_cons.1 h with rfl | h
    · exact List.mem_cons_self
    · exact List.mem_cons_of_mem _ (ih h)

/-- Every name that is tried has the prefix by which methods are recognised as setters. -/
theorem ArgField.hasPrefix_of_mem_setterNames {field : ArgField} {name : String}
    (h : name ∈ field.setterNames) : Text.hasPrefix "set" name = true := by
  rw [Text.hasPrefix_iff]
  have hmem := mem_of_mem_withoutRepeats h
  rcases List.mem_cons.1 hmem with rfl | hmem
  · exact ⟨_, rfl⟩
  rcases List.mem_append.1 hmem with hmarked | haffirmed
  · split at hmarked
    · rcases List.mem_cons.1 hmarked with rfl | hmarked
      · exact ⟨_, rfl⟩
      · exact ⟨_, List.mem_singleton.1 hmarked⟩
    · cases hmarked
  · split at haffirmed
    · exact ⟨_, List.mem_singleton.1 haffirmed⟩
    · cases haffirmed

namespace Controller

/-! ## Resolving one argument -/

/-- A method of a level can assign a value of a type from a package. -/
structure LevelMethod.CanAssign (package : String) (type : JavaType) (method : LevelMethod) :
    Prop where
  notStatic : .static ∉ method.decl.modifiers
  takes : method.parameterTypes = [type]
  isOpen : method.decl.visibility.IsOpen method.level.decl.package package

/-- What a method can assign, the table tells of it. -/
theorem LevelMethod.canAssign_iff {method : LevelMethod} {candidate : SetterCandidate}
    (h : method.candidate? = some candidate) {package : String} {type : JavaType} :
    method.CanAssign package type ↔ candidate.Fits package type := by
  obtain ⟨-, hstatic, rfl⟩ := candidate?_eq_some_iff.1 h
  constructor
  · rintro ⟨-, htakes, hopen⟩
    exact ⟨htakes, hopen⟩
  · rintro ⟨htakes, hopen⟩
    exact ⟨hstatic, htakes, hopen⟩

theorem LevelMethod.CanAssign.competes {method : LevelMethod} {package : String} {type : JavaType}
    (h : method.CanAssign package type) {field : ArgField}
    (hname : method.decl.name ∈ field.setterNames) : method.Competes := by
  refine ⟨field.hasPrefix_of_mem_setterNames hname, h.notStatic, fun hprivate => ?_⟩
  rcases h.isOpen with hpublic | ⟨hother, -⟩
  · rw [hprivate] at hpublic
    cases hpublic
  · exact hother hprivate

/-- The setter that the table has under a name can assign a value of a type. -/
def HasFitting (controller : Controller) (type : JavaType) (name : String) : Prop :=
  ∃ candidate, controller.setter? name = some candidate ∧ candidate.Fits controller.package type

section Resolve

variable {controller : Controller} {field : ArgField}

theorem needsSetter_eq_false_iff :
    controller.needsSetter field = false ↔
      field.visibility.IsOpen field.classPackage controller.package := by
  rw [needsSetter, Bool.not_eq_false', Visibility.permits_iff]

theorem needsSetter_iff :
    controller.needsSetter field = true ↔
      ¬ field.visibility.IsOpen field.classPackage controller.package := by
  rw [← needsSetter_eq_false_iff, Bool.not_eq_false]

theorem any_accepts_iff {name : String} :
    (controller.setter? name).any (controller.accepts field) = true ↔
      controller.HasFitting field.type name := by
  rw [Option.any_eq_true]
  refine exists_congr fun candidate => and_congr_right fun _ => ?_
  rw [accepts, Bool.and_eq_true, decide_eq_true_iff, Visibility.permits_iff]
  exact ⟨fun ⟨htakes, hopen⟩ => ⟨htakes, hopen⟩, fun ⟨htakes, hopen⟩ => ⟨htakes, hopen⟩⟩

/-- The setter of an argument is the first of its names under which the table has one that fits. -/
theorem resolveSetter_eq_ok {setter : String} (h : controller.resolveSetter field = .ok setter) :
    controller.HasFitting field.type setter ∧ ∃ before after,
      field.setterNames = before ++ setter :: after ∧
        ∀ name ∈ before, ¬ controller.HasFitting field.type name := by
  rw [resolveSetter] at h
  split at h
  · next found hfound =>
    rw [← Except.ok.inj h]
    obtain ⟨hfits, before, after, hnames, hbefore⟩ := List.find?_eq_some_iff_append.1 hfound
    refine ⟨any_accepts_iff.1 hfits, before, after, hnames, fun name hmem hfitting => ?_⟩
    have hnot := hbefore name hmem
    rw [any_accepts_iff.2 hfitting] at hnot
    cases hnot
  · cases h

/-- An argument is without a setter if the table has none that fits under any of its names. -/
theorem resolveSetter_eq_error {error : ProcessingError}
    (h : controller.resolveSetter field = .error error) :
    error = .missingSetter field.site field.simpleClassName field.proposedSetter ∧
      ∀ name ∈ field.setterNames, ¬ controller.HasFitting field.type name := by
  rw [resolveSetter] at h
  split at h
  · cases h
  · next hnone =>
    refine ⟨(Except.error.inj h).symm, fun name hmem hfitting => ?_⟩
    exact List.find?_eq_none.1 hnone name hmem (any_accepts_iff.2 hfitting)

/-! ## Resolving all arguments -/

/-- The assignments are the setters of the arguments that need one. -/
theorem setterAssignments_eq_ok {fields : List ArgField} :
    ∀ {assignments : List (String × String)},
      controller.setterAssignments fields = .ok assignments →
      (∀ field ∈ fields, controller.needsSetter field = true →
        ∃ setter, controller.resolveSetter field = .ok setter ∧
          (field.variableName, setter) ∈ assignments) ∧
      ∀ entry ∈ assignments, ∃ field ∈ fields, field.variableName = entry.1 ∧
        controller.needsSetter field = true ∧ controller.resolveSetter field = .ok entry.2 := by
  induction fields with
  | nil =>
    intro assignments h
    rw [← Except.ok.inj h]
    exact ⟨fun _ hmem => (nomatch hmem), fun _ hmem => (nomatch hmem)⟩
  | cons first fields ih =>
    intro assignments h
    rw [setterAssignments] at h
    split at h
    · next hneeds =>
      split at h
      · cases h
      · next setter hsetter =>
        split at h
        · cases h
        · next rest hrest =>
          rw [← Except.ok.inj h]
          obtain ⟨hall, honly⟩ := ih hrest
          constructor
          · intro field hmem hfield
            rcases List.mem_cons.1 hmem with rfl | hmem
            · exact ⟨setter, hsetter, List.mem_cons_self⟩
            · obtain ⟨other, hother, hassigned⟩ := hall field hmem hfield
              exact ⟨other, hother, List.mem_cons_of_mem _ hassigned⟩
          · intro entry hmem
            rcases List.mem_cons.1 hmem with rfl | hmem
            · exact ⟨first, List.mem_cons_self, rfl, hneeds, hsetter⟩
            · obtain ⟨field, hfield, hentry⟩ := honly entry hmem
              exact ⟨field, List.mem_cons_of_mem _ hfield, hentry⟩
    · next hdirect =>
      obtain ⟨hall, honly⟩ := ih h
      constructor
      · intro field hmem hfield
        rcases List.mem_cons.1 hmem with rfl | hmem
        · exact absurd hfield hdirect
        · exact hall field hmem hfield
      · intro entry hmem
        obtain ⟨field, hfield, hentry⟩ := honly entry hmem
        exact ⟨field, List.mem_cons_of_mem _ hfield, hentry⟩

/-- Resolving fails at an argument that needs a setter and has none. -/
theorem setterAssignments_eq_error {fields : List ArgField} {error : ProcessingError}
    (h : controller.setterAssignments fields = .error error) :
    ∃ field ∈ fields, controller.needsSetter field = true ∧
      controller.resolveSetter field = .error error := by
  induction fields with
  | nil => cases h
  | cons first fields ih =>
    rw [setterAssignments] at h
    split at h
    · next hneeds =>
      split at h
      · next hfirst =>
        rw [← Except.error.inj h]
        exact ⟨first, List.mem_cons_self, hneeds, hfirst⟩
      · split at h
        · next hrest =>
          rw [← Except.error.inj h] at ih
          obtain ⟨field, hmem, hfield⟩ := ih hrest
          rw [← Except.error.inj h]
          exact ⟨field, List.mem_cons_of_mem _ hmem, hfield⟩
        · cases h
    · obtain ⟨field, hmem, hfield⟩ := ih h
      exact ⟨field, List.mem_cons_of_mem _ hmem, hfield⟩

end Resolve

/-- The controller after the setters of a list were assigned. -/
def assignSetters (controller : Controller) (assignments : List (String × String)) : Controller :=
  assignments.foldl (fun controller entry => controller.assignSetter entry.1 entry.2) controller

section Assign

variable {controller : Controller}

theorem setters_assignSetter (controller : Controller) (varName setter : String) :
    (controller.assignSetter varName setter).setters = controller.setters := by
  rcases assignSetter_cases controller varName setter with
    ⟨field, -, heq⟩ | ⟨-, field, -, heq⟩ | ⟨-, heq⟩
  · rw [heq]
  · rw [heq]
  · rw [heq]

theorem Consistent.assignSetters (assignments : List (String × String)) (h : Consistent controller) :
    Consistent (controller.assignSetters assignments) := by
  induction assignments generalizing controller with
  | nil => exact h
  | cons entry assignments ih => exact ih (h.assignSetter entry.1 entry.2)

theorem setters_assignSetters (assignments : List (String × String)) :
    (controller.assignSetters assignments).setters = controller.setters := by
  induction assignments generalizing controller with
  | nil => rfl
  | cons entry assignments ih =>
    exact ih.trans (setters_assignSetter controller entry.1 entry.2)

/-- After setters were assigned, an argument is as it was, or it has a setter of the list. -/
theorem field?_assignSetters (h : Consistent controller) {assignments : List (String × String)}
    {name : String} {field : ArgField}
    (hfield : (controller.assignSetters assignments).field? name = some field) :
    ∃ before, controller.field? name = some before ∧
      ((field = before ∧ ∀ setter, (name, setter) ∉ assignments) ∨
        ∃ setter, (name, setter) ∈ assignments ∧ field = withSetter setter before) := by
  induction assignments generalizing controller with
  | nil => exact ⟨field, hfield, .inl ⟨rfl, fun _ hmem => nomatch hmem⟩⟩
  | cons entry assignments ih =>
    obtain ⟨middle, hmiddle, hlater⟩ := ih (h.assignSetter entry.1 entry.2) hfield
    rw [field?_assignSetter entry.1 entry.2 name h] at hmiddle
    split at hmiddle
    · next hself =>
      obtain ⟨before, hbefore, rfl⟩ := Option.map_eq_some_iff.1 hmiddle
      refine ⟨before, hbefore, .inr ?_⟩
      rcases hlater with ⟨rfl, -⟩ | ⟨setter, hmem, rfl⟩
      · refine ⟨entry.2, ?_, rfl⟩
        rw [hself]
        exact List.mem_cons_self
      · exact ⟨setter, List.mem_cons_of_mem _ hmem, rfl⟩
    · next hother =>
      refine ⟨middle, hmiddle, ?_⟩
      rcases hlater with ⟨rfl, hnone⟩ | ⟨setter, hmem, rfl⟩
      · refine .inl ⟨rfl, fun setter hmem => ?_⟩
        rcases List.mem_cons.1 hmem with rfl | hmem
        · exact hother rfl
        · exact hnone setter hmem
      · exact .inr ⟨setter, List.mem_cons_of_mem _ hmem, rfl⟩

theorem resolveSetters_eq_ok {next : Controller} (h : controller.resolveSetters = .ok next) :
    ∃ assignments, controller.setterAssignments controller.fields = .ok assignments ∧
      next = controller.assignSetters assignments := by
  rw [resolveSetters] at h
  split at h
  · cases h
  · next assignments hassignments => exact ⟨assignments, hassignments, (Except.ok.inj h).symm⟩

/-- Resolving leaves the setter table alone. -/
theorem setters_resolveSetters {next : Controller} (h : controller.resolveSetters = .ok next) :
    next.setters = controller.setters := by
  obtain ⟨assignments, -, rfl⟩ := resolveSetters_eq_ok h
  exact setters_assignSetters assignments

/-- An argument that needs no setter stays as it was, and any other one gets the setter that was
found for it. -/
theorem resolved_argument {next : Controller} (h : Consistent controller)
    (hresolve : controller.resolveSetters = .ok next) {field : ArgField}
    (hfield : field ∈ next.arguments) :
    ∃ before ∈ controller.arguments, (controller.needsSetter before = false ∧ field = before) ∨
      ∃ setter, controller.needsSetter before = true ∧
        controller.resolveSetter before = .ok setter ∧ field = withSetter setter before := by
  obtain ⟨assignments, hassignments, rfl⟩ := resolveSetters_eq_ok hresolve
  obtain ⟨hall, honly⟩ := setterAssignments_eq_ok hassignments
  rw [(h.assignSetters assignments).mem_arguments_iff] at hfield
  obtain ⟨before, hbefore, hcases⟩ := field?_assignSetters h hfield
  have hname := h.name_of_field? hbefore
  have hmem : before ∈ controller.arguments := by
    rw [h.mem_arguments_iff, hname]
    exact hbefore
  refine ⟨before, hmem, ?_⟩
  rcases hcases with ⟨rfl, hnone⟩ | ⟨setter, hassigned, rfl⟩
  · refine .inl ⟨?_, rfl⟩
    rw [Bool.eq_false_iff]
    intro hneeds
    obtain ⟨setter, -, hassigned⟩ := hall field (mem_fields_iff.2 hmem) hneeds
    exact hnone setter hassigned
  · obtain ⟨owner, howner, hownerName, hneeds, hsetter⟩ := honly _ hassigned
    obtain rfl := h.eq_of_variableName_eq (mem_fields_iff.1 howner) hmem
      (hownerName.trans hname.symm)
    exact .inr ⟨setter, hneeds, hsetter, rfl⟩

/-- Resolving succeeds exactly if every argument that needs a setter has one. -/
theorem resolveSetters_isOk_iff :
    (∃ next, controller.resolveSetters = .ok next) ↔
      ∀ field ∈ controller.arguments, controller.needsSetter field = true →
        ∃ setter, controller.resolveSetter field = .ok setter := by
  rw [resolveSetters]
  cases hassignments : controller.setterAssignments controller.fields with
  | error error =>
    obtain ⟨field, hmem, hneeds, hunresolved⟩ := setterAssignments_eq_error hassignments
    constructor
    · rintro ⟨next, hnext⟩
      cases hnext
    · intro hall
      obtain ⟨setter, hsetter⟩ := hall field (mem_fields_iff.1 hmem) hneeds
      rw [hunresolved] at hsetter
      cases hsetter
  | ok assignments =>
    refine iff_of_true ⟨_, rfl⟩ fun field hmem hneeds => ?_
    obtain ⟨setter, hsetter, -⟩ :=
      (setterAssignments_eq_ok hassignments).1 field (mem_fields_iff.2 hmem) hneeds
    exact ⟨setter, hsetter⟩

end Assign

/-! ## What a scan leaves to resolve -/

/-- No argument has a setter yet. -/
def Unassigned (controller : Controller) : Prop :=
  ∀ field ∈ controller.arguments, field.setter? = none

theorem unassigned_ofClass (decl : ClassDecl) (inherited : Bool) :
    Unassigned (ofClass decl inherited) := by
  intro field hmem
  cases hmem

theorem Unassigned.add {controller next : Controller} {field : ArgField} {required : Bool}
    (h : Unassigned controller) (hcodec : field.codecVariable? = none)
    (hsetter : field.setter? = none) (hadd : controller.add field required = .ok next) :
    Unassigned next := by
  intro other hmem
  rcases List.mem_cons.1 ((arguments_add hcodec hadd).mem_iff.1 hmem) with rfl | hmem
  · exact hsetter
  · exact h other hmem

theorem Unassigned.scanSetters {controller : Controller} (h : Unassigned controller)
    (level : Level) : Unassigned (controller.scanSetters level) := by
  rw [Controller.scanSetters]
  generalize level.decl.methods.filterMap (candidateOf? level) = candidates
  induction candidates generalizing controller with
  | nil => exact h
  | cons candidate candidates ih =>
    rw [List.foldl_cons]
    refine ih ?_
    obtain ⟨setters, heq⟩ := registerSetter_eq controller candidate
    rw [heq]
    exact h

section Scan

variable {table : ClassTable} {platform : Platform} {decl : ClassDecl} {diagnostics : Diagnostics}

theorem Unassigned.scanLevels {next : Collection} {levels : List Level} :
    ∀ {collection : Collection}, Unassigned collection.controller →
      scanLevels table platform collection levels = .ok next → Unassigned next.controller := by
  induction levels with
  | nil =>
    intro collection h hscan
    rw [← Except.ok.inj hscan]
    exact h
  | cons level levels ih =>
    intro collection h hscan
    rw [Controller.scanLevels] at hscan
    split at hscan
    · cases hscan
    · next middle hfields =>
      have hmiddle : Unassigned middle.controller :=
        scanFields_preserves Unassigned (fun hbefore => hbefore.add) h hfields
      exact ih (hmiddle.scanSetters level) hscan

/-- An argument cannot be made if its codec is invalid or its type cannot be stored. -/
theorem argumentOf_eq_error {bounds : TypeBounds} {level : Level} {fieldDecl : FieldDecl}
    {marker : Annotation} {error : ProcessingError}
    (h : argumentOf table platform bounds level fieldDecl marker = .error error) :
    (∃ element message, error = .invalidCodec element message) ∨
      ∃ site simpleClass type, error = .unsupportedType site simpleClass type := by
  unfold argumentOf at h
  dsimp only at h
  split at h
  · next hcodec =>
    rw [← Except.error.inj h]
    unfold Codec.ofMarker at hcodec
    split at hcodec
    · cases hcodec
    · cases hcodec
    · dsimp only at hcodec
      split at hcodec
      · cases hcodec
      · split at hcodec
        · rw [← Except.error.inj hcodec]
          exact .inl ⟨_, _, rfl⟩
        · cases hcodec
  · split at h
    · next hstorage =>
      rw [← Except.error.inj h]
      unfold storageOf at hstorage
      split at hstorage
      · cases hstorage
      · split at hstorage
        · cases hstorage
        · rw [← Except.error.inj hstorage]
          exact .inr ⟨_, _, _, rfl⟩
    · cases h

/-- A scan of fields fails only where an argument cannot be made. -/
theorem scanFields_eq_error {level : Level} {failure : Failure} {fieldDecls : List FieldDecl} :
    ∀ {collection : Collection},
      scanFields table platform level collection fieldDecls = .error failure →
      ∃ bounds, ∃ fieldDecl ∈ fieldDecls, ∃ marker,
        argumentOf table platform bounds level fieldDecl marker = .error failure.error := by
  induction fieldDecls with
  | nil =>
    intro collection h
    cases h
  | cons fieldDecl fieldDecls ih =>
    intro collection h
    rw [scanFields] at h
    split at h
    · next hstep =>
      rw [← Except.error.inj h]
      rw [scanField] at hstep
      split at hstep
      · cases hstep
      · next marker _ =>
        split at hstep
        · cases hstep
        · split at hstep
          · next hargument =>
            rw [← Except.error.inj hstep]
            exact ⟨_, fieldDecl, List.mem_cons_self, marker, hargument⟩
          · cases hstep
    · obtain ⟨bounds, other, hmem, hother⟩ := ih h
      exact ⟨bounds, other, List.mem_cons_of_mem _ hmem, hother⟩

theorem scanLevels_eq_error {failure : Failure} {levels : List Level} :
    ∀ {collection : Collection},
      scanLevels table platform collection levels = .error failure →
      ∃ bounds, ∃ level ∈ levels, ∃ fieldDecl ∈ level.decl.fields, ∃ marker,
        argumentOf table platform bounds level fieldDecl marker = .error failure.error := by
  induction levels with
  | nil =>
    intro collection h
    cases h
  | cons level levels ih =>
    intro collection h
    rw [scanLevels] at h
    split at h
    · next hfields =>
      rw [← Except.error.inj h]
      obtain ⟨bounds, fieldDecl, hmem, hargument⟩ := scanFields_eq_error hfields
      exact ⟨bounds, level, List.mem_cons_self, fieldDecl, hmem, hargument⟩
    · obtain ⟨bounds, other, hmem, hother⟩ := ih h
      exact ⟨bounds, other, List.mem_cons_of_mem _ hmem, hother⟩

/-- What a scan of all levels of a class has found: arguments without setters, and the setters that
are kept. -/
structure IsScanned (table : ClassTable) (platform : Platform) (decl : ClassDecl)
    (diagnostics : Diagnostics) (levels : List Level) (scanned : Collection) : Prop where
  tracks : Tracks table platform decl (scanInherited platform decl diagnostics).1 diagnostics scanned
    (select (markedFields platform levels))
  unassigned : Unassigned scanned.controller
  remembers : Remembers (levelMethods levels) scanned.controller

theorem isScanned_of_scanLevels {levels : List Level} {scanned : Collection}
    (h : scanLevels table platform ⟨ofClass decl (scanInherited platform decl diagnostics).1,
      (scanInherited platform decl diagnostics).2⟩ levels = .ok scanned) :
    IsScanned table platform decl diagnostics levels scanned where
  tracks := (Tracks.start table platform decl diagnostics).scanLevels h
  unassigned := (unassigned_ofClass decl _).scanLevels h
  remembers := by
    have hstart : Remembers [] (ofClass decl (scanInherited platform decl diagnostics).1) := by
      refine ⟨fun hfound => ?_, fun _ _ hmem => (nomatch hmem)⟩
      cases hfound
    have hscanned := hstart.scanLevels h
    rwa [List.nil_append] at hscanned

/-- A collection succeeds by resolving the setters of what was scanned. -/
theorem collect_eq_ok {collection : Collection}
    (h : collect table platform decl diagnostics = .ok collection) :
    ∃ scanned, IsScanned table platform decl diagnostics
        (Level.ofController table platform decl (scanInherited platform decl diagnostics).1) scanned ∧
      scanned.controller.resolveSetters = .ok collection.controller := by
  rw [collect] at h
  split at h
  · cases h
  · next scanned hscan =>
    refine ⟨scanned, isScanned_of_scanLevels hscan, ?_⟩
    rw [Collection.finish] at h
    split at h
    · cases h
    · next controller hresolve =>
      rw [← Except.ok.inj h]
      exact hresolve

/-- A collection that fails for want of a setter has scanned an argument that needs a setter and for
which the table has none. -/
theorem collect_eq_missingSetter {failure : Failure} {site : FieldSite}
    {simpleClass signature : String}
    (h : collect table platform decl diagnostics = .error failure)
    (hmissing : failure.error = .missingSetter site simpleClass signature) :
    ∃ scanned, IsScanned table platform decl diagnostics
        (Level.ofController table platform decl (scanInherited platform decl diagnostics).1) scanned ∧
      ∃ field ∈ scanned.controller.arguments, scanned.controller.needsSetter field = true ∧
        scanned.controller.resolveSetter field = .error failure.error := by
  rw [collect] at h
  split at h
  · next hscan =>
    rw [← Except.error.inj h] at hmissing
    obtain ⟨bounds, level, -, fieldDecl, -, marker, hargument⟩ := scanLevels_eq_error hscan
    rw [hmissing] at hargument
    rcases argumentOf_eq_error hargument with ⟨_, _, hother⟩ | ⟨_, _, _, hother⟩ <;> cases hother
  · next scanned hscan =>
    refine ⟨scanned, isScanned_of_scanLevels hscan, ?_⟩
    rw [Collection.finish] at h
    split at h
    · next error hresolve =>
      rw [resolveSetters] at hresolve
      split at hresolve
      · next hassignments =>
        obtain ⟨field, hmem, hneeds, hunresolved⟩ := setterAssignments_eq_error hassignments
        refine ⟨field, mem_fields_iff.1 hmem, hneeds, ?_⟩
        rw [← Except.error.inj h, ← Except.error.inj hresolve]
        exact hunresolved
      · cases hresolve
    · cases h

end Scan

end Controller

end BundleBuilder
