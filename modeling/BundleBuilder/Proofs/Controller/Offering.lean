import BundleBuilder.Controller.Basic
import BundleBuilder.Proofs.Table.Lookup

/-!
# Offering an argument to a controller

An argument is added in place: the checks come first, then the codec gets its variable, then the tables
grow. A change that is refused leaves behind whatever was done before the refusal. Both checks only read, and
nothing is done before them, so that a refused argument leaves the controller as it was
(`offer_of_add_eq_error`). An accepted one extends all tables at once (`offer_eq`).
-/

set_option autoImplicit false

namespace BundleBuilder

open Table

namespace Controller

/-! ## Changes in place -/

section Run

variable {α β : Type} {controller middle : Controller} {update : Update α} {next : α → Update β}

/-- What follows a change starts from the controller that it leaves. -/
theorem run_bind_of_ok {value : α} (h : update.run.run controller = (.ok value, middle)) :
    (update >>= next).run.run controller = (next value).run.run middle := by
  rw [ExceptT.run_bind, StateT.run_bind, h]
  rfl

/-- A refusal ends the change with the controller as it stands there. -/
theorem run_bind_of_error {error : ProcessingError}
    (h : update.run.run controller = (.error error, middle)) :
    (update >>= next).run.run controller = (.error error, middle) := by
  rw [ExceptT.run_bind, StateT.run_bind, h]
  rfl

/-- A step that is never refused, followed by another one. -/
theorem run_bind_of_eq {step : StateM Controller α} {next : α → StateM Controller β} {value : α}
    (h : step.run controller = (value, middle)) :
    (step >>= next).run controller = (next value).run middle := by
  rw [StateT.run_bind, h]
  rfl

/-- A step that is never refused, as a change. -/
theorem run_liftM {step : StateM Controller α} {value : α}
    (h : step.run controller = (value, middle)) :
    (liftM step : Update α).run.run controller = (.ok value, middle) := by
  have hlift : (liftM step : Update α).run = Except.ok <$> step := rfl
  rw [hlift, StateT.run_map, h]
  rfl

theorem run_get : (get : Update Controller).run.run controller = (.ok controller, controller) := rfl

theorem run_checkName (controller : Controller) (field : ArgField) :
    (checkName field).run.run controller
      = match controller.field? field.variableName with
        | some existing =>
          (.error (.duplicateVariable field.variableName field.site existing.site), controller)
        | none => (.ok (), controller) := by
  rw [checkName, run_bind_of_ok run_get]
  cases controller.field? field.variableName <;> rfl

theorem run_checkKey (controller : Controller) (field : ArgField) :
    (checkKey field).run.run controller
      = match controller.fieldOfKey? field.key with
        | some existing => (.error (.duplicateKey field.key field.site existing.site), controller)
        | none => (.ok (), controller) := by
  rw [checkKey, run_bind_of_ok run_get]
  cases controller.fieldOfKey? field.key <;> rfl

end Run

/-! ## Codecs -/

/-- The variable of a codec class: the one that it has, or the next free one. -/
def codecVariable (controller : Controller) (codec : String) : String :=
  match controller.codecs.find? codec with
  | some varName => varName
  | none => "bundler" ++ toString (controller.codecs.size + 1)

/-- The codec table after an argument was added. -/
def codecsWith (controller : Controller) (field : ArgField) : InsertionTable String :=
  match field.codec? with
  | none => controller.codecs
  | some codec => controller.codecs.insert codec (controller.codecVariable codec)

/-- An argument with the variable of its codec, if it has a codec. -/
def equipped (controller : Controller) (field : ArgField) : ArgField :=
  match field.codec? with
  | none => field
  | some codec => { field with codecVariable? := some (controller.codecVariable codec) }

/-- An argument with the variable of its codec. -/
def withCodecVariable (controller : Controller) (field : ArgField) : ArgField :=
  { field with codecVariable? := field.codec?.map controller.codecVariable }

theorem equipped_of_fresh (controller : Controller) {field : ArgField}
    (hfresh : field.codecVariable? = none) :
    controller.equipped field = controller.withCodecVariable field := by
  rw [equipped, withCodecVariable]
  cases hcodec : field.codec? with
  | none =>
    cases field
    simp_all
  | some codec => rfl

/-- A codec that has a variable already keeps it. -/
theorem run_registerCodec (controller : Controller) (codec : String) :
    (registerCodec codec).run controller
      = (controller.codecVariable codec,
        { controller with
          codecs := controller.codecs.insert codec (controller.codecVariable codec) }) := by
  have hget : (get : StateM Controller Controller).run controller = (controller, controller) := rfl
  rw [registerCodec, run_bind_of_eq hget, codecVariable]
  cases hfind : controller.codecs.find? codec with
  | none => rfl
  | some varName =>
    dsimp only
    rw [InsertionTable.insert_of_find?_some hfind]
    rfl

theorem run_equip (controller : Controller) (field : ArgField) :
    (equip field).run controller
      = (controller.equipped field, { controller with codecs := controller.codecsWith field }) := by
  rw [equip, equipped, codecsWith]
  cases field.codec? with
  | none => rfl
  | some codec =>
    dsimp only
    rw [run_bind_of_eq (run_registerCodec controller codec)]
    rfl

/-! ## Offers -/

/-- The controller with one more argument, whose name and key are new. -/
def extended (controller : Controller) (field : ArgField) (required : Bool) : Controller :=
  { controller with
    codecs := controller.codecsWith field
    keys := controller.keys.insert field.key field.variableName
    required := if required
      then controller.required.insert field.variableName (controller.equipped field)
      else controller.required
    optional := if required then controller.optional
      else controller.optional.insert field.variableName (controller.equipped field) }

theorem key_equipped (controller : Controller) (field : ArgField) :
    (controller.equipped field).key = field.key := by
  rw [equipped]
  split <;> rfl

theorem variableName_equipped (controller : Controller) (field : ArgField) :
    (controller.equipped field).variableName = field.variableName := by
  rw [equipped]
  split <;> rfl

theorem run_putField (controller : Controller) (field : ArgField) (required : Bool) :
    (putField (controller.equipped field) required).run
        { controller with codecs := controller.codecsWith field }
      = ((), controller.extended field required) := by
  rw [putField, key_equipped, variableName_equipped]
  cases required <;> rfl

/-- Offering an argument: both checks leave the controller as it was, and behind them nothing fails. -/
theorem offer_eq (controller : Controller) (field : ArgField) (required : Bool) :
    controller.offer field required
      = match controller.field? field.variableName with
        | some existing =>
          (controller, some (.duplicateVariable field.variableName field.site existing.site))
        | none =>
          match controller.fieldOfKey? field.key with
          | some existing =>
            (controller, some (.duplicateKey field.key field.site existing.site))
          | none => (controller.extended field required, none) := by
  have hname := run_checkName controller field
  have hkey := run_checkKey controller field
  rw [offer, enroll]
  cases hfound : controller.field? field.variableName with
  | some existing =>
    rw [hfound] at hname
    rw [run_bind_of_error hname]
  | none =>
    rw [hfound] at hname
    rw [run_bind_of_ok hname]
    dsimp only
    cases howner : controller.fieldOfKey? field.key with
    | some existing =>
      rw [howner] at hkey
      rw [run_bind_of_error hkey]
    | none =>
      rw [howner] at hkey
      rw [run_bind_of_ok hkey, run_bind_of_ok (run_liftM (run_equip controller field)),
        run_liftM (run_putField controller field required)]

/-- Adding an argument, without what a refusal leaves behind. -/
theorem add_eq (controller : Controller) (field : ArgField) (required : Bool) :
    controller.add field required
      = match controller.field? field.variableName with
        | some existing =>
          .error (.duplicateVariable field.variableName field.site existing.site)
        | none =>
          match controller.fieldOfKey? field.key with
          | some existing => .error (.duplicateKey field.key field.site existing.site)
          | none => .ok (controller.extended field required) := by
  rw [add, offer_eq]
  cases controller.field? field.variableName with
  | some existing => rfl
  | none => cases controller.fieldOfKey? field.key <;> rfl

section Outcomes

variable {controller next : Controller} {field : ArgField} {required : Bool}

theorem offer_of_add_eq_ok (h : controller.add field required = .ok next) :
    controller.offer field required = (next, none) := by
  rw [add] at h
  split at h
  · next heq => rw [heq, Except.ok.inj h]
  · cases h

/-- A refused argument leaves the controller as it was, with all its tables. -/
theorem offer_of_add_eq_error {error : ProcessingError}
    (h : controller.add field required = .error error) :
    controller.offer field required = (controller, some error) := by
  rw [add_eq] at h
  rw [offer_eq]
  cases hname : controller.field? field.variableName with
  | some existing =>
    rw [hname] at h
    rw [← Except.error.inj h]
  | none =>
    rw [hname] at h
    dsimp only at h ⊢
    cases hkey : controller.fieldOfKey? field.key with
    | some existing =>
      rw [hkey] at h
      rw [← Except.error.inj h]
    | none =>
      rw [hkey] at h
      cases h

/-- An argument is added if its name and its key are new, and only then. -/
theorem add_eq_ok_iff :
    controller.add field required = .ok next ↔
      controller.field? field.variableName = none ∧ controller.fieldOfKey? field.key = none ∧
        next = controller.extended field required := by
  rw [add_eq]
  cases controller.field? field.variableName with
  | some existing => simp
  | none => cases controller.fieldOfKey? field.key <;> simp [eq_comm]

/-- Everything that adding an argument can do. -/
theorem add_eq_ok (hfresh : field.codecVariable? = none)
    (h : controller.add field required = .ok next) :
    controller.field? field.variableName = none ∧ controller.fieldOfKey? field.key = none ∧
      next = { controller with
        codecs := controller.codecsWith field
        keys := controller.keys.insert field.key field.variableName
        required := if required
          then controller.required.insert field.variableName (controller.withCodecVariable field)
          else controller.required
        optional := if required then controller.optional
          else controller.optional.insert field.variableName
            (controller.withCodecVariable field) } := by
  rw [← controller.equipped_of_fresh hfresh]
  exact add_eq_ok_iff.1 h

/-- An argument is refused only if its name or its key is taken, and the error is about it. -/
theorem add_eq_error {error : ProcessingError} (h : controller.add field required = .error error) :
    ((∃ existing, controller.field? field.variableName = some existing) ∨
      ∃ existing, controller.fieldOfKey? field.key = some existing) ∧
    error.element = field.element := by
  rw [add_eq] at h
  split at h
  · next existing hname =>
    rw [← Except.error.inj h]
    exact ⟨.inl ⟨existing, hname⟩, rfl⟩
  · split at h
    · next existing hkey =>
      rw [← Except.error.inj h]
      exact ⟨.inr ⟨existing, hkey⟩, rfl⟩
    · cases h

end Outcomes

end Controller

end BundleBuilder
