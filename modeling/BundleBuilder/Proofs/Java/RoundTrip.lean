import BundleBuilder.Proofs.Java.Injecting
import Mathlib.Data.List.Basic

/-!
# The round trip of a builder

What a builder stores its injector gives back: every required argument receives the constructor's
value and every optional one the last value stored for it, if there is one. This holds for a
controller exactly if no mark stands where a value is kept and no parameter hides a member of the
builder (`SlotsApart`, `Hygienic`). Adding arguments one by one establishes neither: a key that is
new among the keys may still be the key of a mark.

The two conditions are necessary because of one runtime in which every value that is stored is the
false boolean: a mark there shows as a true one.
-/

set_option autoImplicit false

namespace BundleBuilder.Java

open Table Controller

/-! ## The round trip -/

section Statement

variable {runtime : Runtime} (scope : BuilderScope)

/-- Whether a value can be an argument: it can be stored, and it passes its cast when it is read. -/
def Admissible (field : ArgField) (value : runtime.Value) : Prop :=
  runtime.accepts field value = true ∧ castable scope field value = true

/-- The value that an argument has after the constructor and some calls. -/
def finalValue? (values : String → runtime.Value) (calls : List (Call runtime))
    (field : ArgField) : Option runtime.Value :=
  if field.required then some (values field.variableName)
  else lastStored calls field.variableName

/-- What a controller should receive: the arguments that have a value, in the order of their
names. -/
def expected (values : String → runtime.Value) (calls : List (Call runtime)) :
    List (Delivery runtime) :=
  scope.controller.fields.filterMap fun field =>
    (finalValue? values calls field).map fun value => ⟨targetOf field, value⟩

/-- Whatever is stored is given back. Null is no obstacle where it is passed over. -/
def RoundTrips : Prop :=
  ∀ runtime : Runtime, runtime.Lawful →
    ∀ (values : String → runtime.Value) (calls : List (Call runtime)),
      (∀ field ∈ scope.requiredFields, Admissible scope field (values field.variableName)) →
      (∀ call ∈ calls, call.field ∈ scope.controller.optional.values ∧
        (storesValue call.field call.value = true → Admissible scope call.field call.value)) →
      buildAndInject scope values calls = .ok (expected scope values calls)

end Statement

/-! ## The conditions suffice -/

section Sufficient

variable {scope : BuilderScope} {runtime : Runtime}

theorem name_ne_of_required_of_optional {controller : Controller}
    (hconsistent : Consistent controller) {field other : ArgField}
    (hfield : field ∈ controller.required.values) (hother : other ∈ controller.optional.values) :
    field.variableName ≠ other.variableName := by
  obtain ⟨name, hname⟩ := (SortedTable.mem_values_iff _ _).1 hfield
  obtain ⟨otherName, hotherName⟩ := (SortedTable.mem_values_iff _ _).1 hother
  rw [hconsistent.required_name hname, hconsistent.optional_name hotherName]
  intro heq
  rw [heq] at hname
  rw [hconsistent.disjoint hname] at hotherName
  cases hotherName

theorem lastStored_eq_none {calls : List (Call runtime)} {name : String}
    (h : ∀ call ∈ calls, call.field.variableName ≠ name) : lastStored calls name = none := by
  induction calls with
  | nil => rfl
  | cons call calls ih =>
    obtain ⟨hcall, hrest⟩ := List.forall_mem_cons.1 h
    rw [lastStored_cons, ih hrest, if_neg fun hboth => hcall hboth.1]
    rfl

theorem mem_of_lastStored {calls : List (Call runtime)} {name : String} {value : runtime.Value}
    (h : lastStored calls name = some value) :
    ∃ call ∈ calls, call.field.variableName = name ∧
      storesValue call.field call.value = true ∧ call.value = value := by
  rw [lastStored] at h
  obtain ⟨call, hlast, hvalue⟩ := Option.map_eq_some_iff.1 h
  obtain ⟨hmem, hstores⟩ := List.mem_filter.1 (List.mem_of_getLast? hlast)
  rw [Bool.and_eq_true, beq_iff_eq] at hstores
  exact ⟨call, hmem, hstores.1, hstores.2, hvalue⟩

/-- After the constructor and the calls the bundle records the final values. -/
theorem stored_eq_finalValue? (hconsistent : Consistent scope.controller)
    (hcomplete : Complete scope.controller) {values : String → runtime.Value}
    {calls : List (Call runtime)}
    (hcalls : ∀ call ∈ calls, call.field ∈ scope.controller.optional.values) {field : ArgField}
    (hfield : field ∈ scope.controller.arguments) :
    (lastStored calls field.variableName).or (constructed scope values field.variableName)
      = finalValue? values calls field := by
  rw [finalValue?, constructed]
  rcases List.mem_append.1 hfield with hrequired | hoptional
  -- No call stores a required argument, and the constructor stores no optional one.
  · have hnone : lastStored calls field.variableName = none := by
      apply lastStored_eq_none
      intro call hcall
      exact (name_ne_of_required_of_optional hconsistent hrequired (hcalls call hcall)).symm
    have hmem : field.variableName ∈ scope.requiredFields.map ArgField.variableName :=
      List.mem_map_of_mem hrequired
    rw [hnone, hcomplete.required field hrequired, if_pos hmem]
    rfl
  · have hnot : field.variableName ∉ scope.requiredFields.map ArgField.variableName := by
      intro hmem
      obtain ⟨other, hother, hname⟩ := List.mem_map.1 hmem
      exact name_ne_of_required_of_optional hconsistent hother hoptional hname
    rw [if_neg hnot, hcomplete.optional field hoptional, Option.or_none]
    rfl

/-- A bundle that records some values is received as these values. -/
theorem receive_of_recorded {stored : String → Option runtime.Value} {bundle : runtime.Bundle}
    (h : Recorded scope stored bundle) {fields : List ArgField}
    (hfields : ∀ field ∈ fields, field ∈ scope.controller.arguments ∧
      (field.required = true → stored field.variableName ≠ none) ∧
      (∀ value, stored field.variableName = some value → castable scope field value = true)) :
    receive scope bundle fields [] = .ok (fields.filterMap fun field =>
      (stored field.variableName).map fun value => ⟨targetOf field, value⟩) := by
  have hready : ∀ field ∈ fields, (field.required = true →
      runtime.records scope.platform field bundle = true) ∧
      (runtime.records scope.platform field bundle = true →
        castable scope field (runtime.valueIn field bundle) = true) := by
    intro field hfield
    obtain ⟨hargument, hrequired, hcast⟩ := hfields field hfield
    have hrecord := h field hargument
    cases hstored : stored field.variableName with
    | none =>
      rw [hstored] at hrecord
      refine ⟨fun hflag => absurd hstored (hrequired hflag), ?_⟩
      intro hrecords
      rw [hrecord] at hrecords
      cases hrecords
    | some value =>
      rw [hstored] at hrecord
      refine ⟨fun _ => hrecord.1, ?_⟩
      intro _
      rw [hrecord.2]
      exact hcast value hstored
  have hreceive := receive_append [] hready []
  rw [List.append_nil, List.nil_append] at hreceive
  rw [hreceive, receive]
  apply congrArg Except.ok
  rw [received]
  apply List.filterMap_congr
  intro field hfield
  have hrecord := h field (hfields field hfield).1
  cases hstored : stored field.variableName with
  | none =>
    rw [hstored] at hrecord
    rw [hrecord]
    rfl
  | some value =>
    rw [hstored] at hrecord
    rw [hrecord.1, if_pos rfl, deliveryOf, hrecord.2]
    rfl

/-- If all values that are given pass their casts, the final values do. -/
theorem castable_of_finalValue? (hconsistent : Consistent scope.controller)
    (hcomplete : Complete scope.controller) {values : String → runtime.Value}
    {calls : List (Call runtime)}
    (hvalues : ∀ field ∈ scope.requiredFields,
      castable scope field (values field.variableName) = true)
    (hcalls : ∀ call ∈ calls, call.field ∈ scope.controller.optional.values ∧
      (storesValue call.field call.value = true → castable scope call.field call.value = true))
    {field : ArgField} (hfield : field ∈ scope.controller.arguments) {value : runtime.Value}
    (hvalue : finalValue? values calls field = some value) : castable scope field value = true := by
  rw [finalValue?] at hvalue
  rcases List.mem_append.1 hfield with hrequired | hoptional
  · rw [hcomplete.required field hrequired, if_pos rfl] at hvalue
    rw [← Option.some.inj hvalue]
    exact hvalues field hrequired
  · rw [hcomplete.optional field hoptional] at hvalue
    obtain ⟨call, hcall, hname, hstores, hsame⟩ := mem_of_lastStored hvalue
    obtain ⟨hcalled, hcast⟩ := hcalls call hcall
    have heq : call.field = field :=
      hconsistent.eq_of_variableName_eq (List.mem_append_right _ hcalled) hfield hname
    rw [← hsame, ← heq]
    exact hcast hstores

/-- If the slots stand apart and nothing is hidden, whatever is stored is given back. -/
theorem roundTrips_of_apart (hconsistent : Consistent scope.controller)
    (hcomplete : Complete scope.controller) (hapart : SlotsApart scope)
    (hhygienic : Hygienic scope.controller) : RoundTrips scope := by
  intro runtime hlaws values calls hvalues hcalls
  have hmembers : ∀ call ∈ calls, call.field ∈ scope.controller.optional.values :=
    fun call hcall => (hcalls call hcall).1
  obtain ⟨bundle, hconstruct, hrecorded⟩ := construct_records hlaws hconsistent hcomplete hapart
    hhygienic fun field hfield => (hvalues field hfield).1
  obtain ⟨filled, hcallAll, hfilled⟩ := callAll_records hlaws hconsistent hcomplete hapart
    hhygienic calls
    (fun call hcall => ⟨(hcalls call hcall).1, fun h => ((hcalls call hcall).2 h).1⟩) hrecorded
  rw [buildAndInject, expected]
  rw [hconstruct]
  dsimp only
  rw [hcallAll]
  dsimp only
  rw [inject_eq_receive hconsistent hcomplete, receive_of_recorded hfilled]
  · refine congrArg Except.ok (List.filterMap_congr ?_)
    intro field hfield
    rw [stored_eq_finalValue? hconsistent hcomplete hmembers (mem_fields_iff.1 hfield)]
  · intro field hfield
    have hargument := mem_fields_iff.1 hfield
    rw [stored_eq_finalValue? hconsistent hcomplete hmembers hargument]
    refine ⟨hargument, ?_, ?_⟩
    · intro hrequired
      rw [finalValue?, hrequired]
      exact Option.some_ne_none _
    · intro value hvalue
      exact castable_of_finalValue? hconsistent hcomplete
        (fun field hfield => (hvalues field hfield).2)
        (fun call hcall => ⟨hmembers call hcall, fun h => ((hcalls call hcall).2 h).2⟩)
        hargument hvalue

/-- Whether a bundle lacks a required argument. -/
def lacks (scope : BuilderScope) (bundle : runtime.Bundle) (field : ArgField) : Bool :=
  field.required && !runtime.records scope.platform field bundle

/-- The arguments in front of the first one that a bundle lacks. -/
def beforeMissing (scope : BuilderScope) (bundle : runtime.Bundle) : List ArgField :=
  scope.controller.fields.takeWhile fun field => !lacks scope bundle field

/-- An injector stops at the first required argument that is missing, and the arguments in front of
it have been delivered. -/
theorem inject_of_missing (hconsistent : Consistent scope.controller)
    (hcomplete : Complete scope.controller) {bundle : runtime.Bundle} {field : ArgField}
    (hfirst : scope.controller.fields.find? (lacks scope bundle) = some field)
    (hcast : ∀ other ∈ beforeMissing scope bundle,
      runtime.records scope.platform other bundle = true →
        castable scope other (runtime.valueIn other bundle) = true) :
    inject scope (some bundle)
      = .error ⟨missing field, received scope bundle (beforeMissing scope bundle)⟩ := by
  obtain ⟨hlacks, before, after, hsplit, hbefore⟩ := List.find?_eq_some_iff_append.1 hfirst
  have htake : beforeMissing scope bundle = before := by
    rw [beforeMissing]
    rw [hsplit, List.takeWhile_append_of_pos hbefore, List.takeWhile_cons_of_neg, List.append_nil]
    rw [hlacks]
    exact Bool.false_ne_true
  rw [htake] at hcast ⊢
  have hready : ∀ other ∈ before, (other.required = true →
      runtime.records scope.platform other bundle = true) ∧
      (runtime.records scope.platform other bundle = true →
        castable scope other (runtime.valueIn other bundle) = true) := by
    intro other hother
    refine ⟨?_, hcast other hother⟩
    intro hrequired
    have hkept := hbefore other hother
    rw [lacks] at hkept
    rw [hrequired] at hkept
    simpa using hkept
  rw [lacks] at hlacks
  rw [Bool.and_eq_true, Bool.not_eq_true'] at hlacks
  rw [inject_eq_receive hconsistent hcomplete, hsplit, receive_append _ hready, receive,
    hlacks.1, hlacks.2, List.nil_append]
  rfl

end Sufficient

/-! ## The conditions are necessary -/

/-- A runtime in which every value is a boolean and everything can be stored and read as it is. -/
def plainRuntime : Runtime where
  Object := Bool
  Slot := Option Bool
  takes _ _ := true
  stored _ value := value
  fetched _ slot? := slot?.join
  truth := true
  isTruth value := value == some true
  encodes _ _ := true
  encode _ key value bundle := fun other => if other = key then some value else bundle other
  decode _ key bundle := (bundle key).join
  casts _ _ := true

theorem plainRuntime_lawful : plainRuntime.Lawful where
  fetched_stored _ := rfl
  takes_truth := rfl
  isTruth_truth := rfl
  isTruth_absent := rfl
  decode_encode {codec key value bundle} _ := by
    exact congrArg Option.join (if_pos rfl : (if key = key then some value else bundle key) = _)
  encode_other hne := if_neg hne
  decode_congr heq := congrArg Option.join heq

section Necessary

variable {scope : BuilderScope}

/-- The false boolean as a value. -/
def falsehood : plainRuntime.Value := some false

/-- One call for every optional argument, always with the false boolean. -/
def everyCall (scope : BuilderScope) : List (Call plainRuntime) :=
  scope.controller.optional.values.map fun field => ⟨field, falsehood⟩

theorem accepts_plainRuntime (field : ArgField) (value : plainRuntime.Value) :
    plainRuntime.accepts field value = true := by
  rw [Runtime.accepts]
  cases field.codec? with
  | some codec => rfl
  | none => cases field.storage? <;> rfl

theorem castable_plainRuntime (scope : BuilderScope) (field : ArgField)
    (value : plainRuntime.Value) : castable scope field value = true := by
  rw [castable]
  cases field.codec? with
  | some codec => rfl
  | none =>
    cases field.storage? with
    | none => rfl
    | some storage => exact Bool.or_true _

theorem lastStored_everyCall {field : ArgField}
    (hfield : field ∈ scope.controller.optional.values) :
    lastStored (everyCall scope) field.variableName = some falsehood := by
  cases hlast : lastStored (everyCall scope) field.variableName with
  | some value =>
    obtain ⟨call, hcall, -, -, hvalue⟩ := mem_of_lastStored hlast
    obtain ⟨other, -, hother⟩ := List.mem_map.1 hcall
    rw [← hvalue, ← hother]
  | none =>
    rw [lastStored] at hlast
    rw [Option.map_eq_none_iff, List.getLast?_eq_none_iff, List.filter_eq_nil_iff] at hlast
    have hmem : (⟨field, falsehood⟩ : Call plainRuntime) ∈ everyCall scope :=
      List.mem_map_of_mem (f := fun field => (⟨field, falsehood⟩ : Call plainRuntime)) hfield
    refine absurd ?_ (hlast _ hmem)
    rw [Bool.and_eq_true]
    exact ⟨beq_self_eq_true _, Bool.or_true _⟩

/-- The run that decides: everything is given as the false boolean. -/
theorem decisive_run (hcomplete : Complete scope.controller) (h : RoundTrips scope) :
    ∃ bundle filled,
      construct scope (fun _ => falsehood) = .ok bundle ∧
      callAll scope (everyCall scope) bundle = .ok filled ∧
      inject scope (some filled) = .ok (scope.controller.fields.map fun field =>
        (⟨targetOf field, falsehood⟩ : Delivery plainRuntime)) := by
  have hrun := h plainRuntime plainRuntime_lawful (fun _ => falsehood) (everyCall scope)
    (fun field _ => ⟨accepts_plainRuntime field _, castable_plainRuntime scope field _⟩)
    (by
      intro call hcall
      obtain ⟨field, hfield, rfl⟩ := List.mem_map.1 hcall
      exact ⟨hfield, fun _ =>
        ⟨accepts_plainRuntime field _, castable_plainRuntime scope field _⟩⟩)
  have hexpected : expected scope (fun _ => falsehood) (everyCall scope)
      = scope.controller.fields.map fun field =>
        (⟨targetOf field, falsehood⟩ : Delivery plainRuntime) := by
    rw [expected]
    rw [← List.filterMap_eq_map]
    apply List.filterMap_congr
    intro field hfield
    have hvalue : finalValue? (fun _ => falsehood) (everyCall scope) field = some falsehood := by
      rw [finalValue?]
      rcases List.mem_append.1 (mem_fields_iff.1 hfield) with hrequired | hoptional
      · rw [hcomplete.required field hrequired]
        rfl
      · rw [hcomplete.optional field hoptional]
        exact lastStored_everyCall hoptional
    rw [hvalue]
    rfl
  rw [hexpected] at hrun
  rw [buildAndInject] at hrun
  cases hconstruct : construct scope (fun _ => falsehood) with
  | error stop =>
    rw [hconstruct] at hrun
    cases hrun
  | ok bundle =>
    rw [hconstruct] at hrun
    dsimp only at hrun
    cases hcallAll : callAll scope (everyCall scope) bundle with
    | error stop =>
      rw [hcallAll] at hrun
      cases hrun
    | ok filled =>
      rw [hcallAll] at hrun
      exact ⟨bundle, filled, rfl, hcallAll, hrun⟩

/-- If everything is received, every argument is recorded with the value that is received. -/
theorem recorded_of_received {fields : List ArgField} {runtime : Runtime}
    {bundle : runtime.Bundle} {value : runtime.Value}
    (h : received scope bundle fields = fields.map fun field => ⟨targetOf field, value⟩) :
    ∀ field ∈ fields, runtime.records scope.platform field bundle = true ∧
      runtime.valueIn field bundle = value := by
  -- As many values are received as there are arguments, so none is passed over.
  have hall : ∀ field ∈ fields, (if runtime.records scope.platform field bundle
      then some (deliveryOf field bundle) else none).isSome = true := by
    have hlength := congrArg List.length h
    rw [List.length_map] at hlength
    exact List.filterMap_length_eq_length.1 hlength
  have hrecords : ∀ field ∈ fields, runtime.records scope.platform field bundle = true := by
    intro field hfield
    have hsome := hall field hfield
    split at hsome
    · next hrecord => exact hrecord
    · cases hsome
  have hdelivered : received scope bundle fields
      = fields.map fun field => deliveryOf field bundle := by
    rw [received]
    rw [← List.filterMap_eq_map]
    apply List.filterMap_congr
    intro field hfield
    rw [hrecords field hfield, if_pos rfl]
    rfl
  rw [hdelivered] at h
  intro field hfield
  exact ⟨hrecords field hfield,
    congrArg Delivery.value (List.map_inj_left.1 h field hfield)⟩

/-- A builder whose values are given back keeps its slots apart. -/
theorem slotsApart_of_roundTrips (hconsistent : Consistent scope.controller)
    (hcomplete : Complete scope.controller) (h : RoundTrips scope) : SlotsApart scope := by
  obtain ⟨bundle, filled, -, -, hinject⟩ := decisive_run hcomplete h
  rw [inject_eq_receive hconsistent hcomplete] at hinject
  have hreceived := receive_eq_ok _ hinject
  rw [List.nil_append] at hreceived
  have hrecorded := recorded_of_received hreceived.symm
  intro field hfield hcodec other hother heq
  have hmark : (filled (scope.platform.sentinelKey field.key)).join = some true := by
    have hrecords := (hrecorded field (mem_fields_iff.2 hfield)).1
    rw [Runtime.records] at hrecords
    cases hclass : field.codec? with
    | none => exact absurd hclass hcodec
    | some codec =>
      rw [hclass] at hrecords
      exact beq_iff_eq.1 hrecords
  have hvalue : (filled other.key).join = some false := by
    have hread := (hrecorded other (mem_fields_iff.2 hother)).2
    rw [Runtime.valueIn] at hread
    cases hclass : other.codec? with
    | some codec =>
      rw [hclass] at hread
      exact hread
    | none =>
      cases hstorage : other.storage? with
      | some storage =>
        rw [hclass, hstorage] at hread
        exact hread
      | none =>
        rw [hclass, hstorage] at hread
        cases hread
  rw [heq, hvalue] at hmark
  cases hmark

theorem fill_of_callAll {runtime : Runtime} {calls : List (Call runtime)} :
    ∀ {bundle filled : runtime.Bundle}, callAll scope calls bundle = .ok filled →
      ∀ call ∈ calls, ∃ before after,
        fill scope (scope.fluentMethod call.field) [(call.field.variableName, call.value)] before
          = .ok after := by
  induction calls with
  | nil =>
    intro _ _ _ call hcall
    cases hcall
  | cons first calls ih =>
    intro bundle filled h call hcall
    rw [callAll] at h
    cases hfirst : fill scope (scope.fluentMethod first.field)
        [(first.field.variableName, first.value)] bundle with
    | error stop =>
      rw [hfirst] at h
      cases h
    | ok next =>
      rw [hfirst] at h
      rcases List.mem_cons.1 hcall with rfl | hrest
      · exact ⟨bundle, next, hfirst⟩
      · exact ih h call hrest

/-- A method of a builder that comes to its end had no statement that stopped. -/
theorem execAll_of_fill {runtime : Runtime} {method : Method}
    {parameters : List (String × runtime.Value)} {bundle filled : runtime.Bundle}
    (h : fill scope method parameters bundle = .ok filled) :
    ∃ frame, execAll scope.codecVariables method.body ⟨parameters, some bundle, []⟩
      = .ok frame := by
  rw [fill] at h
  cases hexec : execAll scope.codecVariables method.body
      (⟨parameters, some bundle, []⟩ : Frame runtime) with
  | error stop =>
    rw [hexec] at h
    cases h
  | ok frame => exact ⟨frame, rfl⟩

/-- What a complete controller stores with has a codec variable or a storage. -/
theorem stored_variable (hconsistent : Consistent scope.controller)
    (hcomplete : Complete scope.controller) {field : ArgField}
    (hfield : field ∈ scope.controller.arguments) :
    field.codecVariable? ≠ none ∨ field.storage? ≠ none := by
  rcases hcomplete.stored field hfield with hcodec | hstorage
  · obtain ⟨codec, hclass⟩ := Option.ne_none_iff_exists'.1 hcodec
    obtain ⟨varName, hvar, -⟩ := codecVariable_of_codec hconsistent hfield hclass
    rw [hvar]
    exact .inl (Option.some_ne_none varName)
  · exact .inr hstorage

/-- A builder whose values are given back hides none of its members. -/
theorem hygienic_of_roundTrips (hconsistent : Consistent scope.controller)
    (hcomplete : Complete scope.controller) (h : RoundTrips scope) :
    Hygienic scope.controller := by
  obtain ⟨bundle, filled, hconstruct, hcallAll, -⟩ := decisive_run hcomplete h
  -- The run came to its end, so every statement in it saw the members that it used.
  obtain ⟨frame, hexec⟩ := execAll_of_fill hconstruct
  have hrequired := sees_of_stores scope.requiredFields
    (by
      intro field hfield
      refine ⟨stored_variable hconsistent hcomplete (List.mem_append_left _ hfield), false, ?_⟩
      show (scope.requiredFields.map _).lookup field.variableName = some falsehood
      rw [lookup_parameters (fun _ => falsehood), if_pos (List.mem_map_of_mem hfield)])
    hexec
  have hoptional : ∀ field ∈ scope.controller.optional.values,
      Frame.Sees (⟨[(field.variableName, falsehood)], none, []⟩ : Frame plainRuntime) field := by
    intro field hfield
    obtain ⟨before, after, hfill⟩ := fill_of_callAll hcallAll ⟨field, falsehood⟩
      (List.mem_map_of_mem (f := fun field => (⟨field, falsehood⟩ : Call plainRuntime)) hfield)
    obtain ⟨next, hbody⟩ := execAll_of_fill hfill
    have hsplit : (scope.fluentMethod field).body
        = store scope.platform field ++ [.other "return this"] := rfl
    rw [hsplit] at hbody
    obtain ⟨stored, hstore, -⟩ := execAll_append_eq_ok hbody
    have hlocal : [(field.variableName, falsehood)].lookup field.variableName
        = some (some false) := by
      rw [lookup_cons_eq_ite, if_pos rfl]
      rfl
    obtain ⟨hsees, -⟩ := sees_of_store
      (stored_variable hconsistent hcomplete (List.mem_append_right _ hfield)) hlocal hstore
    exact hsees.congr rfl
  refine ⟨?_, ?_, ?_⟩
  · intro field hfield
    rcases List.mem_append.1 hfield with hmem | hmem
    · exact (not_hides_parameters (fun _ => falsehood) scope.requiredFields).1
        (hrequired field hmem).1 field hmem
    · exact (not_hides_parameters (fun _ => falsehood) [field]).1 (hoptional field hmem).1 field
        List.mem_cons_self
  · intro field hfield other hother hvar
    exact (not_hides_parameters (fun _ => falsehood) scope.requiredFields).1
      ((hrequired field hfield).2 _ hvar) other hother rfl
  · intro field hfield hvar
    exact (not_hides_parameters (fun _ => falsehood) [field]).1
      ((hoptional field hfield).2 _ hvar) field List.mem_cons_self rfl

end Necessary

/-! ## The exact condition -/

/-- The values of a controller's arguments make the round trip exactly if no mark stands where a
value is kept and no parameter hides a member of the builder. A bundle that lacks a required
argument stops the injector at the first one, with the arguments in front of it delivered. -/
theorem roundTrips_iff_apart_and_hygienic {decl : ClassDecl} {inherited : Bool}
    {scope : BuilderScope} (hbuilt : Built decl inherited scope.controller)
    (hcomplete : Complete scope.controller) :
    (RoundTrips scope ↔ SlotsApart scope ∧ Hygienic scope.controller) ∧
    ∀ (runtime : Runtime) (bundle : runtime.Bundle) (field : ArgField),
      scope.controller.fields.find? (lacks scope bundle) = some field →
      (∀ other ∈ beforeMissing scope bundle,
        runtime.records scope.platform other bundle = true →
          castable scope other (runtime.valueIn other bundle) = true) →
      inject scope (some bundle)
        = .error ⟨missing field, received scope bundle (beforeMissing scope bundle)⟩ := by
  have hconsistent := hbuilt.consistent
  refine ⟨⟨?_, ?_⟩, ?_⟩
  · intro h
    exact ⟨slotsApart_of_roundTrips hconsistent hcomplete h,
      hygienic_of_roundTrips hconsistent hcomplete h⟩
  · rintro ⟨hapart, hhygienic⟩
    exact roundTrips_of_apart hconsistent hcomplete hapart hhygienic
  · intro runtime bundle field hfirst hcast
    exact inject_of_missing hconsistent hcomplete hfirst hcast

/-! ## A controller with a date and a title -/

/-- A class without members. -/
def detailDecl : ClassDecl := { name := "com.example.Detail" }

/-- A required argument with a codec. -/
def date : ArgField where
  name := "date"
  className := "com.example.Detail"
  classPackage := "com.example"
  type := .named "java.util.Date"
  visibility := .packageAccess
  key := "date"
  required := true
  codec? := some "com.example.DateBundler"

/-- An optional argument that is stored as a text, under some key. -/
def title (key : String) : ArgField where
  name := "title"
  className := "com.example.Detail"
  classPackage := "com.example"
  type := .named "java.lang.String"
  visibility := .packageAccess
  key := key
  required := false
  storage? := some (.single .string)

/-- The class with the two arguments, the title under some key. -/
def detail (key : String) : Controller :=
  ((ofClass detailDecl true).extended date true).extended (title key) false

/-- The scope of its builder on the default platform. -/
def detailScope (key : String) : BuilderScope :=
  .ofController (detail key) {} .empty none []

theorem built_detail {key : String} (hkey : key ≠ "date") : Built detailDecl true (detail key) := by
  have hdate : Built detailDecl true ((ofClass detailDecl true).extended date true) :=
    Built.start.extended rfl rfl rfl
  have hname : ((ofClass detailDecl true).extended date true).field? (unmarkedName "title")
      = none := by decide +kernel
  refine hdate.extended rfl hname ?_
  have hnone : ((ofClass detailDecl true).extended date true).keys.find? key = none := by
    exact (InsertionTable.find?_insert _ _ _ _).trans (if_neg hkey)
  rw [fieldOfKey?, title]
  rw [hnone]
  rfl

theorem complete_detail (key : String) : Complete (detail key) where
  stored := by
    intro field hfield
    rcases List.mem_cons.1 hfield with rfl | hfield
    · exact .inl (Option.some_ne_none _)
    · rw [List.mem_singleton.1 hfield]
      exact .inr (Option.some_ne_none _)
  required := by
    intro field hfield
    rw [List.mem_singleton.1 hfield]
    rfl
  optional := by
    intro field hfield
    rw [List.mem_singleton.1 hfield]
    rfl

theorem detail_title_roundTrips :
    Built detailDecl true (detail "title") ∧ Complete (detail "title") ∧
      RoundTrips (detailScope "title") := by
  have hbuilt : Built detailDecl true (detailScope "title").controller :=
    built_detail (by decide)
  have hcomplete : Complete (detailScope "title").controller := complete_detail "title"
  have hapart : SlotsApart (detailScope "title") := by decide +kernel
  have hhygienic : Hygienic (detailScope "title").controller := by decide +kernel
  exact ⟨hbuilt, hcomplete,
    (roundTrips_iff_apart_and_hygienic hbuilt hcomplete).1.2 ⟨hapart, hhygienic⟩⟩

/-- The key of the date's mark is new among the keys. A title under this key is accepted, and the
values are not given back. -/
theorem detail_sentinel_not_roundTrips :
    Built detailDecl true (detail (Platform.sentinelKey {} "date")) ∧
      Complete (detail (Platform.sentinelKey {} "date")) ∧
      ¬ RoundTrips (detailScope (Platform.sentinelKey {} "date")) := by
  have hbuilt : Built detailDecl true (detail (Platform.sentinelKey {} "date")) :=
    built_detail (by decide)
  have hcomplete := complete_detail (Platform.sentinelKey {} "date")
  refine ⟨hbuilt, hcomplete, ?_⟩
  intro h
  have hapart : SlotsApart (detailScope (Platform.sentinelKey {} "date")) :=
    slotsApart_of_roundTrips hbuilt.consistent hcomplete h
  exact hapart _ List.mem_cons_self (Option.some_ne_none _) (title (Platform.sentinelKey {} "date"))
    (List.mem_cons_of_mem _ List.mem_cons_self) rfl

end BundleBuilder.Java
