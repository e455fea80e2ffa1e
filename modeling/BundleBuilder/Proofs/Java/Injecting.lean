import BundleBuilder.Proofs.Java.Filling

/-!
# What injectors deliver

The injector goes through the arguments in the order of their names. What it does is a function of
what the bundle records of each of them (`execAll_injections`): a recorded argument is delivered
with the value that the bundle has for it, a missing optional one is passed over, and at the first
missing required one the injector stops. Its own variables never hide each other or a codec.
-/

set_option autoImplicit false

namespace BundleBuilder.Java

open Table Controller

/-! ## What is delivered -/

/-- Where the value of an argument goes. -/
def targetOf (field : ArgField) : Target :=
  match field.setter? with
  | some setter => .setter setter
  | none => .field field.name

/-- What an injector says about a required argument that is missing. -/
def missing (field : ArgField) : Fault :=
  .illegalState ("required argument " ++ field.key ++ " is not set")

section Receiving

variable {runtime : Runtime} (scope : BuilderScope)

/-- Whether a value passes the cast that it needs when it is read. -/
def castable (field : ArgField) (value : runtime.Value) : Bool :=
  match field.codec?, field.storage? with
  | none, some storage =>
    !storage.needsCast || runtime.casts (scope.names.render field.type) value
  | _, _ => true

/-- What a controller receives of an argument. -/
def deliveryOf (field : ArgField) (bundle : runtime.Bundle) : Delivery runtime :=
  ⟨targetOf field, runtime.valueIn field bundle⟩

/-- What a controller receives of the arguments that a bundle records. -/
def received (bundle : runtime.Bundle) (fields : List ArgField) : List (Delivery runtime) :=
  fields.filterMap fun field =>
    if runtime.records scope.platform field bundle then some (deliveryOf field bundle) else none

/-- What a controller receives of some arguments behind what it received before. -/
def receive (bundle : runtime.Bundle) :
    List ArgField → List (Delivery runtime) → Except (Stop runtime) (List (Delivery runtime))
  | [], deliveries => .ok deliveries
  | field :: fields, deliveries =>
    if runtime.records scope.platform field bundle then
      if castable scope field (runtime.valueIn field bundle) then
        receive bundle fields (deliveries ++ [deliveryOf field bundle])
      else .error ⟨.badCast (scope.names.render field.type), deliveries⟩
    else if field.required then .error ⟨missing field, deliveries⟩
    else receive bundle fields deliveries

end Receiving

section Received

variable {runtime : Runtime} {scope : BuilderScope} {bundle : runtime.Bundle}

theorem received_cons (field : ArgField) (fields : List ArgField) :
    received scope bundle (field :: fields) =
      (if runtime.records scope.platform field bundle then [deliveryOf field bundle] else [])
        ++ received scope bundle fields := by
  rw [received]
  rw [List.filterMap_cons]
  cases runtime.records scope.platform field bundle <;> rfl

/-- Arguments of which nothing is missing that is required and whose values pass their casts are
received one after the other, and it goes on with the arguments behind them. -/
theorem receive_append {before : List ArgField} (rest : List ArgField) :
    (∀ field ∈ before, (field.required = true →
        runtime.records scope.platform field bundle = true) ∧
      (runtime.records scope.platform field bundle = true →
        castable scope field (runtime.valueIn field bundle) = true)) →
    ∀ deliveries, receive scope bundle (before ++ rest) deliveries
      = receive scope bundle rest (deliveries ++ received scope bundle before) := by
  induction before with
  | nil =>
    intro _ deliveries
    have hnone : received scope bundle [] = [] := rfl
    rw [hnone, List.append_nil, List.nil_append]
  | cons field fields ih =>
    intro hfields deliveries
    obtain ⟨⟨hrequired, hcast⟩, hrest⟩ := List.forall_mem_cons.1 hfields
    rw [List.cons_append, receive, received_cons]
    cases hrecords : runtime.records scope.platform field bundle with
    | true =>
      rw [if_pos rfl, if_pos (hcast hrecords), ih hrest, if_pos rfl, List.append_assoc]
    | false =>
      have hoptional : field.required = false := by
        cases hflag : field.required with
        | false => rfl
        | true => exact absurd (hrequired hflag) (by simp [hrecords])
      rw [hoptional]
      simp only [Bool.false_eq_true, if_false, List.nil_append]
      exact ih hrest deliveries

/-- What is received at all is what the bundle records. -/
theorem receive_eq_ok (fields : List ArgField) :
    ∀ {deliveries after : List (Delivery runtime)},
      receive scope bundle fields deliveries = .ok after →
      after = deliveries ++ received scope bundle fields := by
  induction fields with
  | nil =>
    intro deliveries after h
    cases h
    exact (List.append_nil deliveries).symm
  | cons field fields ih =>
    intro deliveries after h
    rw [receive] at h
    rw [received_cons]
    cases hrecords : runtime.records scope.platform field bundle with
    | true =>
      rw [hrecords, if_pos rfl] at h
      split at h
      · rw [ih h, if_pos rfl, List.append_assoc]
      · cases h
    | false =>
      rw [hrecords] at h
      simp only [Bool.false_eq_true, if_false] at h ⊢
      split at h
      · cases h
      · exact ih h

end Received

/-! ## The variables of an injector -/

section Variables

variable {runtime : Runtime}

/-- The variables of an injector that has declared a number of them. -/
def Frame.Numbered (frame : Frame runtime) (count : Nat) : Prop :=
  ∀ name, frame.hides name = true → ∃ n < count, name = "value" ++ toString n

theorem Frame.Numbered.mono {frame next : Frame runtime} {count more : Nat}
    (h : frame.Numbered count) (hlocals : next.locals = frame.locals) (hmore : count ≤ more) :
    next.Numbered more := by
  intro name hhides
  rw [Frame.hides] at hhides
  rw [hlocals] at hhides
  obtain ⟨n, hn, hname⟩ := h name hhides
  exact ⟨n, Nat.lt_of_lt_of_le hn hmore, hname⟩

/-- The next number is free. -/
theorem Frame.Numbered.not_hides_next {frame : Frame runtime} {count : Nat}
    (h : frame.Numbered count) : frame.hides ("value" ++ toString count) = false := by
  cases hhides : frame.hides ("value" ++ toString count) with
  | false => rfl
  | true =>
    obtain ⟨n, hn, hname⟩ := h _ hhides
    have hsame := Consistent.toString_nat_inj ((String.append_right_inj _).1 hname)
    exact absurd hsame (Nat.ne_of_gt hn)

theorem Frame.Numbered.declare {frame next : Frame runtime} {count : Nat}
    (h : frame.Numbered count) {value : runtime.Value}
    (hlocals : next.locals = ("value" ++ toString count, value) :: frame.locals) :
    next.Numbered (count + 1) := by
  intro name hhides
  rw [Frame.hides] at hhides
  rw [hlocals, lookup_cons_eq_ite] at hhides
  split at hhides
  · next hname => exact ⟨count, Nat.lt_succ_self count, hname⟩
  · obtain ⟨n, hn, hname⟩ := h name hhides
    exact ⟨n, Nat.lt_succ_of_lt hn, hname⟩

/-- A variable of an injector hides no codec. -/
theorem Frame.Numbered.not_hides_codec {controller : Controller}
    (hconsistent : Consistent controller) {frame : Frame runtime} {count : Nat}
    (h : frame.Numbered count) {codec varName : String}
    (hfind : controller.codecs.find? codec = some varName) : frame.hides varName = false := by
  have hmem : varName ∈ controller.codecs.values :=
    List.mem_map_of_mem (f := Prod.snd) ((InsertionTable.mem_entries_iff _ _ _).2 hfind)
  rw [hconsistent.codecs_numbered, List.mem_map] at hmem
  obtain ⟨m, -, hcodec⟩ := hmem
  cases hhides : frame.hides varName with
  | false => rfl
  | true =>
    obtain ⟨n, -, hvalue⟩ := h varName hhides
    have hletters := congrArg (fun name => name.toList.head?) (hcodec.trans hvalue)
    simp at hletters

end Variables

/-! ## Carrying out an injection -/

section Exec

variable {runtime : Runtime} {scope : BuilderScope} {bundle : runtime.Bundle}

/-- The condition for an argument says whether the bundle records it. -/
theorem holds_presence (hconsistent : Consistent scope.controller) {field : ArgField}
    (hfield : field ∈ scope.controller.arguments) {frame : Frame runtime}
    (hbundle : frame.bundle? = some bundle) :
    frame.holds (presence scope.platform field)
      = .ok (runtime.records scope.platform field bundle) := by
  rw [presence, Runtime.records]
  cases hcodec : field.codec? with
  | none =>
    rw [codecVariable?_eq_none hconsistent hfield hcodec]
    simp only [Frame.holds, hbundle]
  | some codec =>
    obtain ⟨varName, hvar, -⟩ := codecVariable_of_codec hconsistent hfield hcodec
    rw [hvar]
    simp only [Frame.holds, hbundle]

/-- What is read for an argument is the value that the bundle has for it, if that passes its
cast. -/
theorem read_readingOf (hconsistent : Consistent scope.controller) {field : ArgField}
    (hfield : field ∈ scope.controller.arguments)
    (hstored : field.codec? ≠ none ∨ field.storage? ≠ none) {frame : Frame runtime} {count : Nat}
    (hnumbered : frame.Numbered count) (hbundle : frame.bundle? = some bundle) :
    ∃ reading, readingOf? scope.names field = some reading ∧
      frame.read scope.codecVariables reading =
        if castable scope field (runtime.valueIn field bundle) then
          .ok (runtime.valueIn field bundle)
        else frame.stop (.badCast (scope.names.render field.type)) := by
  rw [readingOf?, castable, Runtime.valueIn]
  cases hcodec : field.codec? with
  | some codec =>
    have hvariable := hconsistent.codec_variable (hconsistent.mem_arguments_iff.1 hfield)
    rw [hcodec] at hvariable
    obtain ⟨varName, hfind, hvar⟩ := hvariable
    have hclass := Frame.codecClass?_eq (hnumbered.not_hides_codec hconsistent hfind)
      (hconsistent.find?_codec_variable hfind)
    rw [hvar]
    refine ⟨.decode varName field.key, rfl, ?_⟩
    simp only [Frame.read, BuilderScope.codecVariables, hclass, hbundle, if_true]
  | none =>
    cases hstorage : field.storage? with
    | none => simp [hcodec, hstorage] at hstored
    | some storage =>
      rw [codecVariable?_eq_none hconsistent hfield hcodec]
      refine ⟨_, rfl, ?_⟩
      cases hcast : storage.needsCast with
      | false =>
        simp only [Frame.read, hbundle, hcast, Bool.false_eq_true, if_false, Bool.not_false,
          Bool.true_or, if_true]
      | true =>
        simp only [Frame.read, hbundle, hcast, if_true, Bool.not_true, Bool.false_or]

/-- What a frame looks like behind an argument that was delivered or passed over. -/
structure Behind (frame next : Frame runtime) (count : Nat)
    (deliveries : List (Delivery runtime)) : Prop where
  bundle : next.bundle? = frame.bundle?
  numbered : next.Numbered count
  deliveries : next.deliveries = frame.deliveries ++ deliveries

/-- Assigning an argument delivers what the bundle has for it, if that passes its cast. -/
theorem execAll_assignment (hconsistent : Consistent scope.controller) {field : ArgField}
    (hfield : field ∈ scope.controller.arguments)
    (hstored : field.codec? ≠ none ∨ field.storage? ≠ none) {frame : Frame runtime} {count : Nat}
    (hnumbered : frame.Numbered count) (hbundle : frame.bundle? = some bundle) :
    if castable scope field (runtime.valueIn field bundle) then
      ∃ next, execAll scope.codecVariables (assignment scope.names count field) frame = .ok next ∧
        Behind frame next (count + assignmentVariables scope.names field)
          [deliveryOf field bundle]
    else execAll scope.codecVariables (assignment scope.names count field) frame
      = frame.stop (.badCast (scope.names.render field.type)) := by
  obtain ⟨reading, hreading, hread⟩ :=
    read_readingOf hconsistent hfield hstored hnumbered hbundle
  rw [assignment, assignmentVariables, deliveryOf, targetOf]
  rw [hreading]
  cases hcastable : castable scope field (runtime.valueIn field bundle) with
  | false =>
    simp only [hcastable, Bool.false_eq_true, if_false] at hread ⊢
    cases field.setter? <;> simp only [execAll, exec, hread, Frame.stop]
  | true =>
    simp only [hcastable, if_true] at hread ⊢
    cases field.setter? with
    | none =>
      refine ⟨frame.deliver (.field field.name) (runtime.valueIn field bundle), ?_, ?_⟩
      · simp only [execAll, exec, hread]
      · exact ⟨rfl, hnumbered.mono rfl (Nat.le_add_right _ _), rfl⟩
    | some setter =>
      -- The value goes into the next variable, which hides nothing, and from there to the setter.
      have hdeclare : frame.declare ("value" ++ toString count) (runtime.valueIn field bundle)
          = .ok { frame with
              locals := ("value" ++ toString count, runtime.valueIn field bundle)
                :: frame.locals } := by
        rw [Frame.declare]
        rw [hnumbered.not_hides_next]
        rfl
      have hlookup : (("value" ++ toString count, runtime.valueIn field bundle)
          :: frame.locals).lookup ("value" ++ toString count)
            = some (runtime.valueIn field bundle) := by
        rw [lookup_cons_eq_ite, if_pos rfl]
      refine ⟨({ frame with
          locals := ("value" ++ toString count, runtime.valueIn field bundle)
            :: frame.locals } : Frame runtime).deliver (.setter setter)
              (runtime.valueIn field bundle), ?_, ?_⟩
      · simp only [execAll, exec, hread, hdeclare, hlookup]
      · exact ⟨rfl, hnumbered.declare rfl, rfl⟩

/-- An injection does what the bundle's record of its argument asks for. -/
theorem execAll_injection (hconsistent : Consistent scope.controller) {field : ArgField}
    (hfield : field ∈ scope.controller.arguments)
    (hstored : field.codec? ≠ none ∨ field.storage? ≠ none) {frame : Frame runtime} {count : Nat}
    (hnumbered : frame.Numbered count) (hbundle : frame.bundle? = some bundle) :
    if runtime.records scope.platform field bundle then
      if castable scope field (runtime.valueIn field bundle) then
        ∃ next, execAll scope.codecVariables (injection scope count field) frame = .ok next ∧
          Behind frame next (count + assignmentVariables scope.names field)
            [deliveryOf field bundle]
      else execAll scope.codecVariables (injection scope count field) frame
        = frame.stop (.badCast (scope.names.render field.type))
    else if field.required then
      execAll scope.codecVariables (injection scope count field) frame
        = frame.stop (missing field)
    else execAll scope.codecVariables (injection scope count field) frame = .ok frame := by
  have hholds := holds_presence hconsistent hfield hbundle
  have hassigned := execAll_assignment hconsistent hfield hstored hnumbered hbundle
  rw [injection]
  cases hrequired : field.required with
  | true =>
    cases hrecords : runtime.records scope.platform field bundle with
    | false =>
      simp only [if_true, Bool.false_eq_true, if_false, execAll, exec, Frame.holds, hholds,
        hrecords, Bool.not_false]
      rfl
    | true =>
      simp only [if_true, execAll, exec, Frame.holds, hholds, hrecords, Bool.not_true]
      exact hassigned
  | false =>
    cases hrecords : runtime.records scope.platform field bundle with
    | false =>
      simp only [Bool.false_eq_true, if_false, execAll, exec, hholds, hrecords]
    | true =>
      simp only [Bool.false_eq_true, if_false, if_true, execAll, exec, hholds, hrecords]
      cases hcastable : castable scope field (runtime.valueIn field bundle) with
      | false =>
        simp only [hcastable, Bool.false_eq_true, if_false] at hassigned ⊢
        rw [hassigned]
        rfl
      | true =>
        simp only [hcastable, if_true] at hassigned ⊢
        obtain ⟨next, hexec, hbehind⟩ := hassigned
        refine ⟨{ next with locals := frame.locals }, ?_, ?_⟩
        · rw [hexec]
        · exact ⟨hbehind.bundle, hnumbered.mono rfl (Nat.le_add_right _ _), hbehind.deliveries⟩

/-- Carrying out the injections of some arguments is receiving them. -/
theorem execAll_injections (hconsistent : Consistent scope.controller)
    (hcomplete : Complete scope.controller) (fields : List ArgField) :
    (∀ field ∈ fields, field ∈ scope.controller.arguments) →
    ∀ {frame : Frame runtime} {count : Nat}, frame.Numbered count →
      frame.bundle? = some bundle →
      (execAll scope.codecVariables (injections scope count fields) frame).map Frame.deliveries
        = receive scope bundle fields frame.deliveries := by
  induction fields with
  | nil => exact fun _ _ _ _ _ => rfl
  | cons field fields ih =>
    intro hfields frame count hnumbered hbundle
    obtain ⟨hfield, hrest⟩ := List.forall_mem_cons.1 hfields
    have hinjection := execAll_injection hconsistent hfield (hcomplete.stored field hfield)
      hnumbered hbundle
    rw [injections, List.cons_append, execAll]
    simp only [exec]
    rw [execAll_append, receive]
    cases hrecords : runtime.records scope.platform field bundle with
    | false =>
      simp only [hrecords, Bool.false_eq_true, if_false] at hinjection ⊢
      cases hrequired : field.required with
      | true =>
        simp only [hrequired, if_true] at hinjection ⊢
        rw [hinjection]
        rfl
      | false =>
        simp only [hrequired, Bool.false_eq_true, if_false] at hinjection ⊢
        rw [hinjection]
        exact ih hrest (hnumbered.mono rfl (Nat.le_add_right _ _)) hbundle
    | true =>
      simp only [hrecords, if_true] at hinjection ⊢
      cases hcastable : castable scope field (runtime.valueIn field bundle) with
      | false =>
        simp only [hcastable, Bool.false_eq_true, if_false] at hinjection ⊢
        rw [hinjection]
        rfl
      | true =>
        simp only [hcastable, if_true] at hinjection ⊢
        obtain ⟨next, hexec, hbehind⟩ := hinjection
        rw [hexec, ← hbehind.deliveries]
        exact ih hrest hbehind.numbered (hbehind.bundle.trans hbundle)

/-- The injector receives the arguments of a controller one after the other. -/
theorem inject_eq_receive (hconsistent : Consistent scope.controller)
    (hcomplete : Complete scope.controller) (bundle : runtime.Bundle) :
    inject scope (some bundle) = receive scope bundle scope.controller.fields [] := by
  have hnumbered : Frame.Numbered (⟨[], some bundle, []⟩ : Frame runtime) 0 := by
    intro name hhides
    cases hhides
  have hinjections := execAll_injections hconsistent hcomplete _ (fun _ => mem_fields_iff.1)
    hnumbered rfl
  rw [inject, injectMethod]
  simp only [execAll, exec, Frame.holds, Option.isNone_some]
  rw [← hinjections]
  cases execAll scope.codecVariables (injections scope 0 scope.controller.fields)
    (⟨[], some bundle, []⟩ : Frame runtime) <;> rfl

end Exec

end BundleBuilder.Java
