import BundleBuilder.Proofs.Controller.Consistency
import BundleBuilder.Proofs.Java.Execution

/-!
# What builders store

Storing a value as an argument makes the builder's bundle record it: the injector finds the argument
present and reads the value back. If no slots of the arguments coincide, storing one argument leaves
what is recorded of the others alone (`Recorded.write`).
-/

set_option autoImplicit false

namespace BundleBuilder.Java

open Table Controller

/-! ## Slots -/

namespace Runtime

variable (runtime : Runtime) (platform : Platform) (field : ArgField)

/-- Whether a value can be stored as an argument: its codec or its put method accepts it. -/
def accepts (value : runtime.Value) : Bool :=
  match field.codec?, field.storage? with
  | some codec, _ => runtime.encodes codec value
  | none, some storage => runtime.takes storage value
  | none, none => true

/-- The bundle after a value was stored as an argument. -/
def write (value : runtime.Value) (bundle : runtime.Bundle) : runtime.Bundle :=
  match field.codec?, field.storage? with
  | some codec, _ =>
    mark (runtime.encode codec field.key value bundle) (platform.sentinelKey field.key)
  | none, some storage => put bundle field.key (runtime.stored storage value)
  | none, none => bundle

/-- Whether a bundle says that it has an argument. -/
def records (bundle : runtime.Bundle) : Bool :=
  match field.codec? with
  | some _ => isMarked bundle (platform.sentinelKey field.key)
  | none => (bundle field.key).isSome

/-- The value that a bundle has for an argument. -/
def valueIn (bundle : runtime.Bundle) : runtime.Value :=
  match field.codec?, field.storage? with
  | some codec, _ => runtime.decode codec field.key bundle
  | none, some storage => runtime.fetched storage (bundle field.key)
  | none, none => none

end Runtime

/-- The slots of an argument: its key, and the key of its mark if it has a codec. -/
def slots (platform : Platform) (field : ArgField) : List String :=
  match field.codec? with
  | some _ => [field.key, platform.sentinelKey field.key]
  | none => [field.key]

/-- No mark of an argument stands where a value is kept. -/
def SlotsApart (scope : BuilderScope) : Prop :=
  ∀ field ∈ scope.controller.arguments, field.codec? ≠ none →
    ∀ other ∈ scope.controller.arguments, scope.platform.sentinelKey field.key ≠ other.key

instance (scope : BuilderScope) : Decidable (SlotsApart scope) :=
  inferInstanceAs (Decidable (∀ field ∈ scope.controller.arguments, field.codec? ≠ none →
    ∀ other ∈ scope.controller.arguments, scope.platform.sentinelKey field.key ≠ other.key))

theorem put_self {runtime : Runtime} (bundle : runtime.Bundle) (key : String)
    (slot : runtime.Slot) : Runtime.put bundle key slot key = some slot := if_pos rfl

theorem put_other {runtime : Runtime} {bundle : runtime.Bundle} {key other : String}
    {slot : runtime.Slot} (h : other ≠ key) : Runtime.put bundle key slot other = bundle other :=
  if_neg h

theorem mark_other {runtime : Runtime} {bundle : runtime.Bundle} {key other : String}
    (h : other ≠ key) : Runtime.mark bundle key other = bundle other := if_neg h

theorem isMarked_mark {runtime : Runtime} (hlaws : runtime.Lawful) (bundle : runtime.Bundle)
    (key : String) : Runtime.isMarked (Runtime.mark bundle key) key = true := by
  rw [Runtime.isMarked, Runtime.mark]
  rw [put_self, hlaws.fetched_stored hlaws.takes_truth]
  exact hlaws.isTruth_truth

section Laws

variable {runtime : Runtime} {platform : Platform}

/-- Nothing is recorded in the empty bundle. -/
theorem records_empty (hlaws : runtime.Lawful) (field : ArgField) :
    runtime.records platform field (fun _ => none) = false := by
  rw [Runtime.records]
  cases field.codec? with
  | none => rfl
  | some codec => exact hlaws.isTruth_absent

/-- A value that was stored is recorded and read back, if the mark stands apart from it. -/
theorem records_write_self (hlaws : runtime.Lawful) {field : ArgField} {value : runtime.Value}
    {bundle : runtime.Bundle} (haccepts : runtime.accepts field value = true)
    (hstored : field.codec? ≠ none ∨ field.storage? ≠ none)
    (hapart : field.codec? ≠ none → platform.sentinelKey field.key ≠ field.key) :
    runtime.records platform field (runtime.write platform field value bundle) = true ∧
      runtime.valueIn field (runtime.write platform field value bundle) = value := by
  rw [Runtime.records, Runtime.valueIn, Runtime.write]
  rw [Runtime.accepts] at haccepts
  cases hcodec : field.codec? with
  | some codec =>
    simp only [hcodec] at haccepts
    have hkey : field.key ≠ platform.sentinelKey field.key := (hapart (by simp [hcodec])).symm
    refine ⟨isMarked_mark hlaws _ _, ?_⟩
    -- The mark is written behind the value, but at another key.
    have hsame : runtime.decode codec field.key (Runtime.mark
          (runtime.encode codec field.key value bundle) (platform.sentinelKey field.key))
        = runtime.decode codec field.key (runtime.encode codec field.key value bundle) :=
      hlaws.decode_congr (mark_other hkey)
    exact hsame.trans (hlaws.decode_encode haccepts)
  | none =>
    cases hstorage : field.storage? with
    | none => simp [hcodec, hstorage] at hstored
    | some storage =>
      simp only [hcodec, hstorage] at haccepts
      simp only [put_self]
      exact ⟨rfl, hlaws.fetched_stored haccepts⟩

/-- Storing a value leaves every slot of its own argument's alone. -/
theorem write_other (hlaws : runtime.Lawful) {field : ArgField} {value : runtime.Value}
    {bundle : runtime.Bundle} {key : String} (hkey : key ∉ slots platform field) :
    runtime.write platform field value bundle key = bundle key := by
  rw [Runtime.write]
  rw [slots] at hkey
  cases hcodec : field.codec? with
  | some codec =>
    simp only [hcodec, List.mem_cons, List.not_mem_nil, or_false, not_or] at hkey
    dsimp only
    rw [mark_other hkey.2, hlaws.encode_other hkey.1]
  | none =>
    simp only [hcodec, List.mem_cons, List.not_mem_nil, or_false] at hkey
    cases field.storage? with
    | none => rfl
    | some storage => exact put_other hkey

/-- What is recorded of an argument depends on its slots only. -/
theorem records_congr (hlaws : runtime.Lawful) {field : ArgField}
    {first second : runtime.Bundle} (h : ∀ key ∈ slots platform field, first key = second key) :
    runtime.records platform field first = runtime.records platform field second ∧
      runtime.valueIn field first = runtime.valueIn field second := by
  simp only [Runtime.records, Runtime.valueIn]
  rw [slots] at h
  cases hcodec : field.codec? with
  | some codec =>
    simp only [hcodec, List.mem_cons, List.not_mem_nil, or_false, forall_eq_or_imp,
      forall_eq] at h
    refine ⟨?_, hlaws.decode_congr h.1⟩
    simp only [Runtime.isMarked]
    rw [h.2]
  | none =>
    simp only [hcodec, List.mem_cons, List.not_mem_nil, or_false, forall_eq] at h
    rw [h]
    refine ⟨rfl, ?_⟩
    cases field.storage? <;> rfl

end Laws

/-- The slots of two arguments do not meet. -/
theorem slots_disjoint {scope : BuilderScope} (hconsistent : Consistent scope.controller)
    (hapart : SlotsApart scope) {field other : ArgField}
    (hfield : field ∈ scope.controller.arguments) (hother : other ∈ scope.controller.arguments)
    (hne : field.variableName ≠ other.variableName) :
    ∀ key ∈ slots scope.platform other, key ∉ slots scope.platform field := by
  have hkeys : other.key ≠ field.key := by
    intro heq
    exact hne (congrArg ArgField.variableName (hconsistent.eq_of_key_eq hfield hother heq.symm))
  have hmarks : scope.platform.sentinelKey other.key ≠ scope.platform.sentinelKey field.key := by
    intro heq
    exact hkeys ((String.append_right_inj _).1 heq)
  simp only [slots]
  cases hcodec : field.codec? with
  | none =>
    cases hotherCodec : other.codec? with
    | none => simpa using hkeys
    | some otherCodec =>
      have hmark := hapart other hother (by simp [hotherCodec]) field hfield
      simpa using ⟨hkeys, hmark⟩
  | some codec =>
    have hmark := hapart field hfield (by simp [hcodec]) other hother
    cases hotherCodec : other.codec? with
    | none => simpa using ⟨hkeys, hmark.symm⟩
    | some otherCodec =>
      have hotherMark := hapart other hother (by simp [hotherCodec]) field hfield
      simpa using ⟨⟨hkeys, hmark.symm⟩, hotherMark, hmarks⟩

/-! ## What is recorded -/

section Recorded

variable {scope : BuilderScope} {runtime : Runtime}

/-- A bundle records every argument with the value stored for it, and no argument without one.
Values go by variable names. -/
def Recorded (scope : BuilderScope) (stored : String → Option runtime.Value)
    (bundle : runtime.Bundle) : Prop :=
  ∀ field ∈ scope.controller.arguments,
    match stored field.variableName with
    | some value =>
      runtime.records scope.platform field bundle = true ∧ runtime.valueIn field bundle = value
    | none => runtime.records scope.platform field bundle = false

/-- The values after one more was stored. -/
def remember (stored : String → Option runtime.Value) (name : String) (value : runtime.Value) :
    String → Option runtime.Value :=
  fun other => if other = name then some value else stored other

theorem recorded_empty (hlaws : runtime.Lawful) :
    Recorded scope (fun _ => (none : Option runtime.Value)) fun _ => none := by
  intro field _
  exact records_empty hlaws field

/-- Storing a value changes the record of one argument. -/
theorem Recorded.write (hlaws : runtime.Lawful) (hconsistent : Consistent scope.controller)
    (hapart : SlotsApart scope) {stored : String → Option runtime.Value} {bundle : runtime.Bundle}
    (h : Recorded scope stored bundle) {field : ArgField}
    (hfield : field ∈ scope.controller.arguments)
    (hstored : field.codec? ≠ none ∨ field.storage? ≠ none) {value : runtime.Value}
    (haccepts : runtime.accepts field value = true) :
    Recorded scope (remember stored field.variableName value)
      (runtime.write scope.platform field value bundle) := by
  intro other hother
  rw [remember]
  by_cases hname : other.variableName = field.variableName
  · have hsame : other = field := hconsistent.eq_of_variableName_eq hother hfield hname
    subst hsame
    simp only [if_true]
    exact records_write_self hlaws haccepts hstored fun hcodec =>
      hapart other hother hcodec other hother
  · simp only [hname, if_false]
    have hslots := slots_disjoint hconsistent hapart hfield hother fun heq => hname heq.symm
    have hagree : ∀ key ∈ slots scope.platform other,
        runtime.write scope.platform field value bundle key = bundle key := by
      intro key hkey
      exact write_other hlaws (hslots key hkey)
    obtain ⟨hrecords, hvalue⟩ := records_congr hlaws hagree
    rw [hrecords, hvalue]
    exact h other hother

end Recorded

/-! ## Carrying out what stores a value -/

section Exec

variable {scope : BuilderScope} {runtime : Runtime}

/-- The names that storing an argument needs are not hidden. -/
def Frame.Sees (frame : Frame runtime) (field : ArgField) : Prop :=
  frame.hides "mArguments" = false ∧
    ∀ codec, field.codecVariable? = some codec → frame.hides codec = false

/-- The variable of an argument's codec, and the class that it stands for in the builder. -/
theorem codecVariable_of_codec (hconsistent : Consistent scope.controller) {field : ArgField}
    (hfield : field ∈ scope.controller.arguments) {codec : String}
    (hcodec : field.codec? = some codec) :
    ∃ varName, field.codecVariable? = some varName ∧
      scope.codecVariables.find? (fun entry => entry.2 == varName) = some (codec, varName) := by
  have hvariable := hconsistent.codec_variable (hconsistent.mem_arguments_iff.1 hfield)
  rw [hcodec] at hvariable
  obtain ⟨varName, hfind, hvar⟩ := hvariable
  exact ⟨varName, hvar, hconsistent.find?_codec_variable hfind⟩

/-- A codec variable that is not hidden denotes its class. -/
theorem Frame.codecClass?_eq {frame : Frame runtime} {codecs : List (String × String)}
    {codec varName : String} (hvisible : frame.hides varName = false)
    (hfind : codecs.find? (fun entry => entry.2 == varName) = some (codec, varName)) :
    frame.codecClass? codecs varName = some codec := by
  rw [Frame.codecClass?]
  rw [hvisible, hfind]
  rfl

theorem codecVariable?_eq_none (hconsistent : Consistent scope.controller) {field : ArgField}
    (hfield : field ∈ scope.controller.arguments) (hcodec : field.codec? = none) :
    field.codecVariable? = none := by
  have hvariable := hconsistent.codec_variable (hconsistent.mem_arguments_iff.1 hfield)
  rw [hcodec] at hvariable
  exact hvariable

theorem execAll_storing (hconsistent : Consistent scope.controller) {field : ArgField}
    (hfield : field ∈ scope.controller.arguments) {frame : Frame runtime} {name : String}
    {value : runtime.Value} {bundle : runtime.Bundle} (hlocal : frame.locals.lookup name = some value)
    (hbundle : frame.bundle? = some bundle) (hsees : frame.Sees field)
    (haccepts : runtime.accepts field value = true) :
    execAll scope.codecVariables (storing scope.platform field name) frame
      = .ok { frame with
          bundle? := some (runtime.write scope.platform field value bundle) } := by
  rw [Runtime.accepts] at haccepts
  rw [storing, Runtime.write]
  cases hcodec : field.codec? with
  | some codec =>
    obtain ⟨varName, hvar, hclass⟩ := codecVariable_of_codec hconsistent hfield hcodec
    have hfound := Frame.codecClass?_eq (hsees.2 varName hvar) hclass
    simp only [hcodec] at haccepts
    have hhides : ∀ bundle? : Option runtime.Bundle,
        ({ frame with bundle? := bundle? } : Frame runtime).hides "mArguments" = false :=
      fun _ => hsees.1
    simp only [hvar, execAll, exec, Frame.encode, hsees.1, hfound, hbundle, hlocal, haccepts,
      Frame.mark, hhides, Bool.false_eq_true, if_false, if_true]
  | none =>
    have hvar := codecVariable?_eq_none hconsistent hfield hcodec
    cases hstorage : field.storage? with
    | none =>
      simp only [hvar, execAll, ← hbundle]
    | some storage =>
      simp only [hcodec, hstorage] at haccepts
      simp only [hvar, execAll, exec, Frame.put, hsees.1, hbundle, hlocal, haccepts,
        Bool.false_eq_true, if_false, if_true]

/-- Whether storing an argument with a value stores anything: an optional reference that is null is
passed over. -/
def storesValue (field : ArgField) (value : runtime.Value) : Bool :=
  field.required || field.type.isPrimitive || value.isSome

/-- The guard in the generated code passes over what is not to be stored. -/
theorem storesValue_eq (field : ArgField) (value : runtime.Value) :
    storesValue field value = (!isGuarded field || value.isSome) := by
  rw [storesValue, isGuarded]
  cases field.required <;> cases field.type.isPrimitive <;> rfl

/-- Storing an argument writes its value, unless it is passed over. -/
theorem execAll_store (hconsistent : Consistent scope.controller) {field : ArgField}
    (hfield : field ∈ scope.controller.arguments) {frame : Frame runtime} {value : runtime.Value}
    {bundle : runtime.Bundle} (hlocal : frame.locals.lookup field.variableName = some value)
    (hbundle : frame.bundle? = some bundle) (hsees : frame.Sees field)
    (haccepts : storesValue field value = true → runtime.accepts field value = true) :
    execAll scope.codecVariables (store scope.platform field) frame
      = .ok (if storesValue field value then
          { frame with bundle? := some (runtime.write scope.platform field value bundle) }
        else frame) := by
  rw [store]
  rw [storesValue_eq] at haccepts ⊢
  cases hguarded : isGuarded field with
  | false =>
    simp only [hguarded, Bool.not_false, Bool.true_or] at haccepts ⊢
    exact execAll_storing hconsistent hfield hlocal hbundle hsees (haccepts trivial)
  | true =>
    simp only [hguarded, Bool.not_true, Bool.false_or] at haccepts ⊢
    cases hvalue : value.isSome with
    | false =>
      simp only [if_true, execAll, exec, Frame.holds, hlocal, hvalue, Bool.false_eq_true, if_false]
    | true =>
      have hstoring := execAll_storing hconsistent hfield hlocal hbundle hsees (haccepts hvalue)
      simp only [if_true, execAll, exec, Frame.holds, hlocal, hvalue, hstoring]

end Exec

end BundleBuilder.Java
