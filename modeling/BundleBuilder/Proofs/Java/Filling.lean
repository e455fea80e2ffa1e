import BundleBuilder.Proofs.Java.Storing

/-!
# Filling the bundle

The constructor of a builder stores the required arguments, and each call of an optional argument's
method stores that one. If no slots of the arguments coincide and no parameter hides a member of the
builder, the bundle then records every required argument with the constructor's value and every
optional one with the last value stored for it (`callAll_records`). Conversely, a constructor or a
method that comes to its end had no hidden member to use.
-/

set_option autoImplicit false

namespace BundleBuilder.Java

open Table Controller

/-! ## What is asked of a controller -/

/-- Every argument has a codec or a storage, and its flag says among which arguments it stands. -/
structure Complete (controller : Controller) : Prop where
  stored : ∀ field ∈ controller.arguments, field.codec? ≠ none ∨ field.storage? ≠ none
  required : ∀ field ∈ controller.required.values, field.required = true
  optional : ∀ field ∈ controller.optional.values, field.required = false

/-- No parameter of the constructor or of an optional argument's method hides the bundle or a codec
that is used there. -/
structure Hygienic (controller : Controller) : Prop where
  bundle : ∀ field ∈ controller.arguments, field.variableName ≠ "mArguments"
  required : ∀ field ∈ controller.required.values, ∀ other ∈ controller.required.values,
    field.codecVariable? ≠ some other.variableName
  optional : ∀ field ∈ controller.optional.values,
    field.codecVariable? ≠ some field.variableName

theorem hygienic_iff (controller : Controller) :
    Hygienic controller ↔
      (∀ field ∈ controller.arguments, field.variableName ≠ "mArguments") ∧
      (∀ field ∈ controller.required.values, ∀ other ∈ controller.required.values,
        field.codecVariable? ≠ some other.variableName) ∧
      ∀ field ∈ controller.optional.values, field.codecVariable? ≠ some field.variableName :=
  ⟨fun h => ⟨h.bundle, h.required, h.optional⟩, fun h => ⟨h.1, h.2.1, h.2.2⟩⟩

instance (controller : Controller) : Decidable (Hygienic controller) :=
  decidable_of_iff _ (hygienic_iff controller).symm

theorem execAll_append {runtime : Runtime} (codecs : List (String × String))
    (first second : List Statement) : ∀ frame : Frame runtime,
    execAll codecs (first ++ second) frame =
      match execAll codecs first frame with
      | .error stop => .error stop
      | .ok next => execAll codecs second next := by
  induction first with
  | nil => exact fun _ => rfl
  | cons statement first ih =>
    intro frame
    rw [List.cons_append]
    simp only [execAll]
    cases exec codecs statement frame with
    | error stop => rfl
    | ok next => exact ih next

/-! ## Parameters -/

/-- The parameters for some arguments, each with the value of its name. -/
theorem lookup_parameters {Value : Type} (values : String → Value) (fields : List ArgField)
    (name : String) :
    (fields.map fun field => (field.variableName, values field.variableName)).lookup name
      = if name ∈ fields.map ArgField.variableName then some (values name) else none := by
  induction fields with
  | nil => rfl
  | cons field fields ih =>
    rw [List.map_cons, lookup_cons_eq_ite, ih, List.map_cons]
    by_cases hname : name = field.variableName
    · subst hname
      rw [if_pos rfl, if_pos List.mem_cons_self]
    · simp only [hname, if_false, List.mem_cons, false_or]

/-- The parameters for some arguments hide the names of these arguments. -/
theorem not_hides_parameters {runtime : Runtime} (values : String → runtime.Value)
    (fields : List ArgField) {bundle? : Option runtime.Bundle} {name : String} :
    (Frame.mk (fields.map fun field => (field.variableName, values field.variableName)) bundle?
        []).hides name = false ↔ ∀ field ∈ fields, field.variableName ≠ name := by
  rw [Frame.hides]
  rw [lookup_parameters]
  by_cases hname : name ∈ fields.map ArgField.variableName
  · rw [if_pos hname]
    obtain ⟨field, hfield, heq⟩ := List.mem_map.1 hname
    constructor
    · intro h
      cases h
    · intro h
      exact absurd heq (h field hfield)
  · rw [if_neg hname]
    apply iff_of_true rfl
    intro field hfield heq
    exact hname (List.mem_map.2 ⟨field, hfield, heq⟩)

/-! ## The constructor -/

section Fill

variable {scope : BuilderScope} {runtime : Runtime}

/-- Storing required arguments one after the other records all of them. -/
theorem execAll_stores (hlaws : runtime.Lawful) (hconsistent : Consistent scope.controller)
    (hcomplete : Complete scope.controller) (hapart : SlotsApart scope)
    {values : String → runtime.Value} {parameters : List (String × runtime.Value)}
    {deliveries : List (Delivery runtime)} (fields : List ArgField) :
    (∀ field ∈ fields, field ∈ scope.controller.required.values ∧
      parameters.lookup field.variableName = some (values field.variableName) ∧
      Frame.Sees ⟨parameters, none, deliveries⟩ field ∧
      runtime.accepts field (values field.variableName) = true) →
    ∀ {stored : String → Option runtime.Value} {bundle : runtime.Bundle},
      Recorded scope stored bundle →
      ∃ filled, execAll scope.codecVariables (fields.flatMap (store scope.platform))
          ⟨parameters, some bundle, deliveries⟩ = .ok ⟨parameters, some filled, deliveries⟩ ∧
        Recorded scope (fun name =>
          if name ∈ fields.map ArgField.variableName then some (values name) else stored name)
          filled := by
  induction fields with
  | nil =>
    intro _ stored bundle h
    exact ⟨bundle, rfl, by simpa using h⟩
  | cons field fields ih =>
    intro hfields stored bundle h
    obtain ⟨⟨hrequired, hlocal, hsees, haccepts⟩, hrest⟩ := List.forall_mem_cons.1 hfields
    have hmem : field ∈ scope.controller.arguments := List.mem_append_left _ hrequired
    have hstores : storesValue field (values field.variableName) = true := by
      rw [storesValue]
      rw [hcomplete.required field hrequired]
      rfl
    have hstore : execAll scope.codecVariables (store scope.platform field)
        (⟨parameters, some bundle, deliveries⟩ : Frame runtime)
          = .ok (if storesValue field (values field.variableName) then
              ⟨parameters, some (runtime.write scope.platform field
                (values field.variableName) bundle), deliveries⟩
            else ⟨parameters, some bundle, deliveries⟩) :=
      execAll_store hconsistent hmem hlocal rfl hsees fun _ => haccepts
    rw [hstores, if_pos rfl] at hstore
    -- The invariant passes over one argument, and the induction goes on with the bundle it left.
    have hwritten := h.write hlaws hconsistent hapart hmem (hcomplete.stored field hmem) haccepts
    obtain ⟨filled, hexec, hrecorded⟩ := ih hrest hwritten
    refine ⟨filled, ?_, ?_⟩
    · rw [List.flatMap_cons, execAll_append, hstore]
      exact hexec
    · refine cast (congrArg (fun stored => Recorded scope stored filled) (funext ?_)) hrecorded
      intro name
      simp only [remember, List.map_cons, List.mem_cons]
      by_cases hin : name ∈ fields.map ArgField.variableName
      · simp only [hin, if_true, or_true]
      · by_cases hself : name = field.variableName
        · simp only [hself, true_or, if_true, ite_self]
        · simp only [hin, hself, or_self, if_false]

/-- What is stored by the constructor. -/
def constructed (scope : BuilderScope) (values : String → runtime.Value) :
    String → Option runtime.Value :=
  fun name =>
    if name ∈ scope.requiredFields.map ArgField.variableName then some (values name) else none

/-- The constructor records the required arguments. -/
theorem construct_records (hlaws : runtime.Lawful) (hconsistent : Consistent scope.controller)
    (hcomplete : Complete scope.controller) (hapart : SlotsApart scope)
    (hhygienic : Hygienic scope.controller) {values : String → runtime.Value}
    (haccepts : ∀ field ∈ scope.requiredFields,
      runtime.accepts field (values field.variableName) = true) :
    ∃ bundle, construct scope values = .ok bundle ∧
      Recorded scope (constructed scope values) bundle := by
  have hfields : ∀ field ∈ scope.requiredFields,
      field ∈ scope.controller.required.values ∧
      (scope.requiredFields.map fun field =>
        (field.variableName, values field.variableName)).lookup field.variableName
          = some (values field.variableName) ∧
      Frame.Sees ⟨scope.requiredFields.map fun field =>
        (field.variableName, values field.variableName), none, []⟩ field ∧
      runtime.accepts field (values field.variableName) = true := by
    intro field hfield
    refine ⟨hfield, ?_, ⟨?_, ?_⟩, haccepts field hfield⟩
    · rw [lookup_parameters, if_pos (List.mem_map_of_mem hfield)]
    · apply (not_hides_parameters values scope.requiredFields).2
      intro other hother
      exact hhygienic.bundle other (List.mem_append_left _ hother)
    · intro codec hcodec
      apply (not_hides_parameters values scope.requiredFields).2
      intro other hother heq
      apply hhygienic.required field hfield other hother
      rw [hcodec, heq]
  obtain ⟨bundle, hexec, hrecorded⟩ := execAll_stores hlaws hconsistent hcomplete hapart
    scope.requiredFields hfields (recorded_empty hlaws)
  refine ⟨bundle, ?_, hrecorded⟩
  rw [construct, fill]
  have hbody : scope.constructorMethod.body
      = scope.requiredFields.flatMap (store scope.platform) := rfl
  rw [hbody, hexec]
  rfl

/-! ## Calls -/

/-- The last value that some calls store for an argument. -/
def lastStored (calls : List (Call runtime)) (name : String) : Option runtime.Value :=
  ((calls.filter fun call =>
    call.field.variableName == name && storesValue call.field call.value).getLast?).map (·.value)

theorem lastStored_cons (call : Call runtime) (calls : List (Call runtime)) (name : String) :
    lastStored (call :: calls) name = (lastStored calls name).or
      (if call.field.variableName = name ∧ storesValue call.field call.value = true
        then some call.value else none) := by
  simp only [lastStored]
  rw [List.filter_cons]
  by_cases h : call.field.variableName = name ∧ storesValue call.field call.value = true
  · rw [if_pos (by simpa using h), if_pos h, List.getLast?_cons]
    cases (List.filter _ calls).getLast? <;> rfl
  · rw [if_neg (by simpa using h), if_neg h, Option.or_none]

/-- A call of an optional argument's method, with a value that can be stored if it is stored at
all. -/
def Call.Accepted (call : Call runtime) (controller : Controller) : Prop :=
  call.field ∈ controller.optional.values ∧
    (storesValue call.field call.value = true → runtime.accepts call.field call.value = true)

/-- The method of an optional argument stores its value, unless it is passed over. -/
theorem fill_fluentMethod (hconsistent : Consistent scope.controller)
    (hhygienic : Hygienic scope.controller) {call : Call runtime}
    (hcall : call.Accepted scope.controller) (bundle : runtime.Bundle) :
    fill scope (scope.fluentMethod call.field) [(call.field.variableName, call.value)] bundle
      = .ok (if storesValue call.field call.value then
          runtime.write scope.platform call.field call.value bundle else bundle) := by
  obtain ⟨hoptional, haccepts⟩ := hcall
  have hmem : call.field ∈ scope.controller.arguments := List.mem_append_right _ hoptional
  have hhides : ∀ name, call.field.variableName ≠ name →
      (Frame.mk [(call.field.variableName, call.value)] (some bundle) []).hides name = false := by
    intro name hname
    refine (not_hides_parameters (fun _ => call.value) [call.field]).2 ?_
    intro field hfield
    rw [List.mem_singleton.1 hfield]
    exact hname
  have hsees : Frame.Sees (⟨[(call.field.variableName, call.value)], some bundle, []⟩ :
      Frame runtime) call.field := by
    refine ⟨hhides _ (hhygienic.bundle call.field hmem), ?_⟩
    intro codec hcodec
    apply hhides codec
    intro heq
    apply hhygienic.optional call.field hoptional
    rw [hcodec, heq]
  have hlocal : [(call.field.variableName, call.value)].lookup call.field.variableName
      = some call.value := by rw [lookup_cons_eq_ite, if_pos rfl]
  have hstore := execAll_store hconsistent hmem hlocal rfl hsees haccepts
  have hbody : (scope.fluentMethod call.field).body
      = store scope.platform call.field ++ [.other "return this"] := rfl
  rw [fill]
  rw [hbody, execAll_append, hstore]
  cases storesValue call.field call.value <;> rfl

/-- Calls record for every argument the last value that they store, if they store any. -/
theorem callAll_records (hlaws : runtime.Lawful) (hconsistent : Consistent scope.controller)
    (hcomplete : Complete scope.controller) (hapart : SlotsApart scope)
    (hhygienic : Hygienic scope.controller) (calls : List (Call runtime)) :
    (∀ call ∈ calls, call.Accepted scope.controller) →
    ∀ {stored : String → Option runtime.Value} {bundle : runtime.Bundle},
      Recorded scope stored bundle →
      ∃ filled, callAll scope calls bundle = .ok filled ∧
        Recorded scope (fun name => (lastStored calls name).or (stored name)) filled := by
  induction calls with
  | nil =>
    intro _ stored bundle h
    exact ⟨bundle, rfl, h⟩
  | cons call calls ih =>
    intro hcalls stored bundle h
    obtain ⟨hcall, hrest⟩ := List.forall_mem_cons.1 hcalls
    have hmem : call.field ∈ scope.controller.arguments := List.mem_append_right _ hcall.1
    have hfill := fill_fluentMethod hconsistent hhygienic hcall bundle
    have hstep : Recorded scope (fun name =>
          (if call.field.variableName = name ∧ storesValue call.field call.value = true
            then some call.value else none).or (stored name))
        (if storesValue call.field call.value then
          runtime.write scope.platform call.field call.value bundle else bundle) := by
      cases hstores : storesValue call.field call.value with
      | false => simpa using h
      | true =>
        have hwritten := h.write hlaws hconsistent hapart hmem (hcomplete.stored _ hmem)
          (hcall.2 hstores)
        refine cast (congrArg (fun stored => Recorded scope stored _) (funext ?_)) hwritten
        intro name
        rw [remember]
        by_cases hname : call.field.variableName = name
        · simp [hname]
        · have hother : ¬ name = call.field.variableName := fun heq => hname heq.symm
          simp [hname, hother]
    obtain ⟨filled, hcallAll, hrecorded⟩ := ih hrest hstep
    refine ⟨filled, ?_, ?_⟩
    · simp only [callAll, hfill]
      exact hcallAll
    · refine cast (congrArg (fun stored => Recorded scope stored filled) (funext ?_)) hrecorded
      intro name
      rw [lastStored_cons, Option.or_assoc]

end Fill

/-! ## Methods that come to their end -/

section Ended

variable {scope : BuilderScope} {runtime : Runtime}

/-- What storing needs depends on the parameters only. -/
theorem Frame.Sees.congr {frame next : Frame runtime} {field : ArgField} (h : frame.Sees field)
    (hlocals : next.locals = frame.locals) : next.Sees field := by
  simp only [Frame.Sees, Frame.hides] at h ⊢
  rw [hlocals]
  exact h

theorem not_hides_of_put {frame next : Frame runtime} {storage : Storage} {key name : String}
    (h : frame.put storage key name = .ok next) :
    frame.hides "mArguments" = false ∧ next.locals = frame.locals := by
  rw [Frame.put] at h
  split at h
  · cases h
  · next hvisible =>
    refine ⟨by simpa using hvisible, ?_⟩
    split at h
    · cases h
    · cases h
    · split at h
      · cases h
        rfl
      · cases h

theorem not_hides_of_encode {frame next : Frame runtime} {codecs : List (String × String)}
    {codec key name : String} (h : frame.encode codecs codec key name = .ok next) :
    frame.hides "mArguments" = false ∧ frame.hides codec = false ∧ next.locals = frame.locals := by
  rw [Frame.encode] at h
  split at h
  · cases h
  · next hvisible =>
    refine ⟨by simpa using hvisible, ?_⟩
    split at h
    · cases h
    · cases h
    · cases h
    · next className bundle value hclass _ _ =>
      have hcodec : frame.hides codec = false := by
        rw [Frame.codecClass?] at hclass
        split at hclass
        · cases hclass
        · next hshown => simpa using hshown
      refine ⟨hcodec, ?_⟩
      split at h
      · cases h
        rfl
      · cases h

theorem locals_of_mark {frame next : Frame runtime} {key : String}
    (h : frame.mark key = .ok next) : next.locals = frame.locals := by
  rw [Frame.mark] at h
  split at h
  · cases h
  · split at h
    · cases h
    · cases h
      rfl

/-- Statements that come to their end do so one after the other. -/
theorem execAll_cons_eq_ok {codecs : List (String × String)} {statement : Statement}
    {statements : List Statement} {frame next : Frame runtime}
    (h : execAll codecs (statement :: statements) frame = .ok next) :
    ∃ between, exec codecs statement frame = .ok between ∧
      execAll codecs statements between = .ok next := by
  rw [execAll] at h
  cases hfirst : exec codecs statement frame with
  | error stop =>
    rw [hfirst] at h
    cases h
  | ok between =>
    rw [hfirst] at h
    exact ⟨between, rfl, h⟩

theorem execAll_append_eq_ok {codecs : List (String × String)} {first second : List Statement}
    {frame next : Frame runtime} (h : execAll codecs (first ++ second) frame = .ok next) :
    ∃ between, execAll codecs first frame = .ok between ∧
      execAll codecs second between = .ok next := by
  rw [execAll_append] at h
  cases hfirst : execAll codecs first frame with
  | error stop =>
    rw [hfirst] at h
    cases h
  | ok between =>
    rw [hfirst] at h
    exact ⟨between, rfl, h⟩

/-- What stored an argument saw the names that it needed. -/
theorem sees_of_storing {field : ArgField} {codecs : List (String × String)}
    (hstored : field.codecVariable? ≠ none ∨ field.storage? ≠ none) {name : String}
    {frame next : Frame runtime}
    (h : execAll codecs (storing scope.platform field name) frame = .ok next) :
    frame.Sees field ∧ next.locals = frame.locals := by
  rw [storing] at h
  cases hvar : field.codecVariable? with
  | some codec =>
    rw [hvar] at h
    obtain ⟨encoded, hencode, hrest⟩ := execAll_cons_eq_ok h
    obtain ⟨marked, hmark, hend⟩ := execAll_cons_eq_ok hrest
    obtain ⟨hbundle, hcodec, hlocals⟩ := not_hides_of_encode hencode
    cases hend
    refine ⟨⟨hbundle, ?_⟩, (locals_of_mark hmark).trans hlocals⟩
    intro other hother
    rw [hvar] at hother
    cases hother
    exact hcodec
  | none =>
    cases hstorage : field.storage? with
    | none => simp [hvar, hstorage] at hstored
    | some storage =>
      rw [hvar, hstorage] at h
      obtain ⟨stored, hput, hend⟩ := execAll_cons_eq_ok h
      obtain ⟨hbundle, hlocals⟩ := not_hides_of_put hput
      cases hend
      refine ⟨⟨hbundle, ?_⟩, hlocals⟩
      intro other hother
      rw [hvar] at hother
      cases hother

/-- What stored an argument from an object saw the names that it needed. -/
theorem sees_of_store {field : ArgField} {codecs : List (String × String)}
    (hstored : field.codecVariable? ≠ none ∨ field.storage? ≠ none)
    {frame next : Frame runtime} {object : runtime.Object}
    (hlocal : frame.locals.lookup field.variableName = some (some object))
    (h : execAll codecs (store scope.platform field) frame = .ok next) :
    frame.Sees field ∧ next.locals = frame.locals := by
  rw [store] at h
  cases hguarded : isGuarded field with
  | false =>
    simp only [hguarded, Bool.false_eq_true, if_false] at h
    exact sees_of_storing hstored h
  | true =>
    simp only [hguarded, if_true] at h
    obtain ⟨guarded, hguard, hend⟩ := execAll_cons_eq_ok h
    cases hend
    simp only [exec, Frame.holds, hlocal, Option.isSome_some] at hguard
    cases hstoring : execAll codecs (storing scope.platform field field.variableName) frame with
    | error stop =>
      rw [hstoring] at hguard
      cases hguard
    | ok stored =>
      rw [hstoring] at hguard
      cases hguard
      exact ⟨(sees_of_storing hstored hstoring).1, rfl⟩

/-- What stored some arguments from objects saw the names that they needed. -/
theorem sees_of_stores {codecs : List (String × String)} (fields : List ArgField) :
    ∀ {frame next : Frame runtime},
      (∀ field ∈ fields, (field.codecVariable? ≠ none ∨ field.storage? ≠ none) ∧
        ∃ object, frame.locals.lookup field.variableName = some (some object)) →
      execAll codecs (fields.flatMap (store scope.platform)) frame = .ok next →
      ∀ field ∈ fields, frame.Sees field := by
  induction fields with
  | nil =>
    intro _ _ _ _ field hfield
    cases hfield
  | cons first fields ih =>
    intro frame next hfields h
    obtain ⟨⟨hstored, object, hlocal⟩, hrest⟩ := List.forall_mem_cons.1 hfields
    rw [List.flatMap_cons] at h
    obtain ⟨between, hfirst, hothers⟩ := execAll_append_eq_ok h
    obtain ⟨hsees, hlocals⟩ := sees_of_store hstored hlocal hfirst
    have hparameters : ∀ field ∈ fields,
        (field.codecVariable? ≠ none ∨ field.storage? ≠ none) ∧
          ∃ object, between.locals.lookup field.variableName = some (some object) := by
      rw [hlocals]
      exact hrest
    intro field hfield
    rcases List.mem_cons.1 hfield with rfl | hmem
    · exact hsees
    · exact (ih hparameters hothers field hmem).congr hlocals.symm

end Ended

end BundleBuilder.Java
