import BundleBuilder.Controller.Setter
import BundleBuilder.Proofs.Controller.Offering
import Mathlib.Logic.Basic

/-!
# Controllers that are built step by step

A controller starts without arguments and grows by adding arguments, remembering setters and
assigning them. However it was built, its tables agree with each other (`Built.consistent`): an
argument is found under its variable name and in one of the two tables only, the key table leads to
the argument of a key, and an argument has the variable that the codec table gives its codec.
-/

set_option autoImplicit false

namespace BundleBuilder.Controller

open Table

/-! ## Arguments -/

/-- The required arguments and behind them the optional ones. -/
def arguments (controller : Controller) : List ArgField :=
  controller.required.values ++ controller.optional.values

/-- The arguments in the order of their names are the required and the optional ones. -/
theorem fields_perm_arguments (controller : Controller) :
    controller.fields.Perm controller.arguments := by
  have hmerge : (controller.required.entries.merge controller.optional.entries
      fun a b => decide (a.1 ≤ b.1)).Perm
        (controller.required.entries ++ controller.optional.entries) :=
    List.merge_perm_append _
  have hvalues := hmerge.map Prod.snd
  rw [List.map_append] at hvalues
  exact hvalues

theorem mem_fields_iff {controller : Controller} {field : ArgField} :
    field ∈ controller.fields ↔ field ∈ controller.arguments :=
  (fields_perm_arguments controller).mem_iff

theorem fieldCount_eq_length (controller : Controller) :
    controller.fieldCount = controller.arguments.length := by
  simp only [fieldCount, arguments, SortedTable.size, SortedTable.values]
  rw [List.length_append, List.length_map, List.length_map]

/-! ## Codecs -/

theorem find?_codecsWith_of_find? {controller : Controller} {codec varName : String}
    (field : ArgField) (h : controller.codecs.find? codec = some varName) :
    (controller.codecsWith field).find? codec = some varName := by
  rw [codecsWith]
  cases field.codec? with
  | none => exact h
  | some other =>
    rw [InsertionTable.find?_insert]
    split
    · next heq =>
      subst heq
      rw [codecVariable]
      rw [h]
    · exact h

theorem find?_codecsWith_self {controller : Controller} {field : ArgField} {codec : String}
    (h : field.codec? = some codec) :
    (controller.codecsWith field).find? codec = some (controller.codecVariable codec) := by
  rw [codecsWith]
  rw [h, InsertionTable.find?_insert, if_pos rfl]

/-! ## The invariant -/

/-- The controllers that can be built for a class: arguments are added without a codec variable,
setters are remembered, and arguments get setters, in any order. -/
inductive Built (decl : ClassDecl) (inherited : Bool) : Controller → Prop where
  | start : Built decl inherited (ofClass decl inherited)
  | add {controller next : Controller} {field : ArgField} {required : Bool} :
      Built decl inherited controller → field.codecVariable? = none →
      controller.add field required = .ok next → Built decl inherited next
  | registerSetter {controller : Controller} (candidate : SetterCandidate) :
      Built decl inherited controller → Built decl inherited (controller.registerSetter candidate)
  | assignSetter {controller : Controller} (varName setter : String) :
      Built decl inherited controller →
      Built decl inherited (controller.assignSetter varName setter)

theorem Built.extended {decl : ClassDecl} {inherited : Bool} {controller : Controller}
    {field : ArgField} {required : Bool} (h : Built decl inherited controller)
    (hfresh : field.codecVariable? = none) (hname : controller.field? field.variableName = none)
    (hkey : controller.fieldOfKey? field.key = none) :
    Built decl inherited (controller.extended field required) := by
  have hadd : controller.add field required = .ok (controller.extended field required) := by
    rw [add_eq, hname, hkey]
  exact h.add hfresh hadd

/-- The tables of a controller agree with each other. -/
structure Consistent (controller : Controller) : Prop where
  /-- A required argument stands under its variable name. -/
  required_name {name : String} {field : ArgField} :
    controller.required.find? name = some field → field.variableName = name
  /-- An optional argument stands under its variable name. -/
  optional_name {name : String} {field : ArgField} :
    controller.optional.find? name = some field → field.variableName = name
  /-- No name is both required and optional. -/
  disjoint {name : String} {field : ArgField} :
    controller.required.find? name = some field → controller.optional.find? name = none
  /-- The key table leads to the argument of a key. -/
  key_iff (key name : String) :
    controller.keys.find? key = some name ↔
      ∃ field, controller.field? name = some field ∧ field.key = key
  /-- An argument has the variable that the codec table gives its codec. -/
  codec_variable {name : String} {field : ArgField} :
    controller.field? name = some field →
      match field.codec? with
      | none => field.codecVariable? = none
      | some codec => ∃ varName, controller.codecs.find? codec = some varName ∧
          field.codecVariable? = some varName
  /-- Codec variables are numbered from one upwards. -/
  codecs_numbered :
    controller.codecs.values
      = (List.range controller.codecs.size).map fun n => "bundler" ++ toString (n + 1)

namespace Consistent

variable {controller : Controller}

theorem field?_eq_some_iff (h : Consistent controller) {name : String} {field : ArgField} :
    controller.field? name = some field ↔
      controller.required.find? name = some field ∨ controller.optional.find? name = some field := by
  rw [field?]
  cases hrequired : controller.required.find? name with
  | none => simp
  | some existing =>
    rw [h.disjoint hrequired]
    simp

theorem name_of_field? (h : Consistent controller) {name : String} {field : ArgField}
    (hfield : controller.field? name = some field) : field.variableName = name := by
  rcases h.field?_eq_some_iff.1 hfield with hrequired | hoptional
  · exact h.required_name hrequired
  · exact h.optional_name hoptional

/-- The arguments are what is found under their own variable names. -/
theorem mem_arguments_iff (h : Consistent controller) {field : ArgField} :
    field ∈ controller.arguments ↔ controller.field? field.variableName = some field := by
  rw [arguments]
  rw [List.mem_append, SortedTable.mem_values_iff, SortedTable.mem_values_iff,
    h.field?_eq_some_iff]
  constructor
  · rintro (⟨name, hfind⟩ | ⟨name, hfind⟩)
    · rw [h.required_name hfind]
      exact .inl hfind
    · rw [h.optional_name hfind]
      exact .inr hfind
  · rintro (hfind | hfind)
    · exact .inl ⟨_, hfind⟩
    · exact .inr ⟨_, hfind⟩

/-- No two arguments share a variable name. -/
theorem eq_of_variableName_eq (h : Consistent controller) {field other : ArgField}
    (hfield : field ∈ controller.arguments) (hother : other ∈ controller.arguments)
    (hname : field.variableName = other.variableName) : field = other := by
  rw [h.mem_arguments_iff] at hfield hother
  rw [hname, hother] at hfield
  exact (Option.some.inj hfield).symm

/-- No two arguments share a key. -/
theorem eq_of_key_eq (h : Consistent controller) {field other : ArgField}
    (hfield : field ∈ controller.arguments) (hother : other ∈ controller.arguments)
    (hkey : field.key = other.key) : field = other := by
  have hfirst := (h.key_iff field.key field.variableName).2
    ⟨field, h.mem_arguments_iff.1 hfield, rfl⟩
  have hsecond := (h.key_iff field.key other.variableName).2
    ⟨other, h.mem_arguments_iff.1 hother, hkey.symm⟩
  rw [hfirst] at hsecond
  exact h.eq_of_variableName_eq hfield hother (Option.some.inj hsecond)

theorem field?_eq_none_iff (h : Consistent controller) {name : String} :
    controller.field? name = none ↔ ∀ field ∈ controller.arguments, field.variableName ≠ name := by
  constructor
  · intro hnone field hmem heq
    rw [h.mem_arguments_iff, heq, hnone] at hmem
    cases hmem
  · intro hall
    cases hfield : controller.field? name with
    | none => rfl
    | some field =>
      have hname := h.name_of_field? hfield
      have hmem : field ∈ controller.arguments := by
        rw [h.mem_arguments_iff, hname, hfield]
      exact absurd hname (hall field hmem)

theorem fieldOfKey?_eq_none_iff (h : Consistent controller) {key : String} :
    controller.fieldOfKey? key = none ↔ ∀ field ∈ controller.arguments, field.key ≠ key := by
  constructor
  · intro hnone field hmem heq
    have hfield := h.mem_arguments_iff.1 hmem
    have hkey := (h.key_iff key field.variableName).2 ⟨field, hfield, heq⟩
    rw [fieldOfKey?] at hnone
    rw [hkey, Option.bind_some, hfield] at hnone
    cases hnone
  · intro hall
    rw [fieldOfKey?]
    cases hkey : controller.keys.find? key with
    | none => rfl
    | some name =>
      obtain ⟨field, hfield, heq⟩ := (h.key_iff key name).1 hkey
      have hname := h.name_of_field? hfield
      have hmem : field ∈ controller.arguments := by
        rw [h.mem_arguments_iff, hname, hfield]
      exact absurd heq (hall field hmem)

/-- The text of a number determines the number. -/
theorem toString_nat_inj {m n : Nat} (h : toString m = toString n) : m = n := by
  rw [Nat.toString_eq_ofList_toDigits, Nat.toString_eq_ofList_toDigits] at h
  have hdigits := congrArg (fun digits => Nat.ofDigitChars 10 digits 0) (String.ofList_injective h)
  simpa only [Nat.ofDigitChars_ten_toDigits] using hdigits

/-- No two codecs share a variable. -/
theorem codecs_values_nodup (h : Consistent controller) : controller.codecs.values.Nodup := by
  rw [h.codecs_numbered, List.Nodup, List.pairwise_map]
  apply List.nodup_range.imp
  intro m n hne heq
  have hnumber := toString_nat_inj ((String.append_right_inj _).1 heq)
  exact hne (Nat.succ.inj hnumber)

/-- A codec variable leads back to its codec class. -/
theorem find?_codec_variable (h : Consistent controller) {codec varName : String}
    (hfind : controller.codecs.find? codec = some varName) :
    controller.codecs.entries.find? (fun entry => entry.2 == varName) = some (codec, varName) := by
  have hmem := (InsertionTable.mem_entries_iff _ _ _).2 hfind
  have hnodup : (controller.codecs.entries.map Prod.snd).Nodup := h.codecs_values_nodup
  -- The induction is on the entries, whose variables stay distinct.
  generalize controller.codecs.entries = entries at hmem hnodup
  induction entries with
  | nil => cases hmem
  | cons entry rest ih =>
    rw [List.map_cons, List.nodup_cons] at hnodup
    rcases List.mem_cons.1 hmem with rfl | hrest
    · rw [List.find?_cons_of_pos (by simp)]
    · have hne : entry.2 ≠ varName := by
        intro heq
        apply hnodup.1
        rw [heq]
        exact List.mem_map_of_mem (f := Prod.snd) hrest
      rw [List.find?_cons_of_neg (by simpa using hne)]
      exact ih hrest hnodup.2

end Consistent

/-! ## Every step keeps the invariant -/

theorem consistent_ofClass (decl : ClassDecl) (inherited : Bool) :
    Consistent (ofClass decl inherited) where
  required_name h := by cases h
  optional_name h := by cases h
  disjoint h := by cases h
  key_iff key name := by
    constructor
    · intro h
      cases h
    · rintro ⟨field, h, -⟩
      cases h
  codec_variable h := by cases h
  codecs_numbered := rfl

/-- The controllers that agree in everything that the invariant speaks about. -/
theorem Consistent.congr {controller next : Controller} (h : Consistent controller)
    (hrequired : next.required = controller.required)
    (hoptional : next.optional = controller.optional)
    (hkeys : next.keys = controller.keys) (hcodecs : next.codecs = controller.codecs) :
    Consistent next := by
  have hfield : next.field? = controller.field? := by
    funext name
    simp only [field?]
    rw [hrequired, hoptional]
  refine ⟨?_, ?_, ?_, ?_, ?_, ?_⟩
  · rw [hrequired]
    exact h.required_name
  · rw [hoptional]
    exact h.optional_name
  · rw [hrequired, hoptional]
    exact h.disjoint
  · rw [hkeys, hfield]
    exact h.key_iff
  · rw [hfield, hcodecs]
    exact h.codec_variable
  · rw [hcodecs]
    exact h.codecs_numbered

/-- A setter is either remembered under its name or changes nothing. -/
theorem registerSetter_cases (controller : Controller) (candidate : SetterCandidate) :
    controller.registerSetter candidate = controller ∨
      controller.registerSetter candidate
        = { controller with setters := controller.setters.insert candidate.name candidate } :=
  (ite_eq_or_eq _ _ _).symm

/-- Remembering a setter changes the table of setters and nothing else. -/
theorem registerSetter_eq (controller : Controller) (candidate : SetterCandidate) :
    ∃ setters, controller.registerSetter candidate = { controller with setters := setters } := by
  rcases registerSetter_cases controller candidate with heq | heq
  · exact ⟨controller.setters, heq⟩
  · exact ⟨_, heq⟩

theorem Consistent.registerSetter {controller : Controller} (h : Consistent controller)
    (candidate : SetterCandidate) : Consistent (controller.registerSetter candidate) := by
  obtain ⟨setters, heq⟩ := registerSetter_eq controller candidate
  rw [heq]
  exact h.congr rfl rfl rfl rfl

/-! ### Adding an argument -/

section Add

variable {controller next : Controller} {field : ArgField} {required : Bool}

theorem field?_add (hfresh : field.codecVariable? = none)
    (hadd : controller.add field required = .ok next) (name : String) :
    next.field? name = if name = field.variableName then some (controller.withCodecVariable field)
      else controller.field? name := by
  obtain ⟨hname, -, rfl⟩ := add_eq_ok hfresh hadd
  simp only [field?] at hname ⊢
  cases required with
  | true =>
    simp only [if_true, SortedTable.find?_insert]
    by_cases heq : name = field.variableName
    · simp only [heq, if_true]
    · simp only [heq, if_false]
  | false =>
    -- The required arguments are asked first, and the new name is not among them.
    simp only [Bool.false_eq_true, if_false, SortedTable.find?_insert]
    by_cases heq : name = field.variableName
    · simp only [heq, if_true]
      cases hrequired : controller.required.find? field.variableName with
      | none => rfl
      | some existing =>
        rw [hrequired] at hname
        cases hname
    · simp only [heq, if_false]

/-- A name that is new is in neither table. -/
theorem find?_of_field?_eq_none {name : String} (h : controller.field? name = none) :
    controller.required.find? name = none ∧ controller.optional.find? name = none := by
  rw [field?] at h
  cases hrequired : controller.required.find? name with
  | none =>
    rw [hrequired] at h
    exact ⟨rfl, h⟩
  | some existing =>
    rw [hrequired] at h
    cases h

theorem codecsWith_numbered (h : Consistent controller) (field : ArgField) :
    (controller.codecsWith field).values = (List.range (controller.codecsWith field).size).map
      fun n => "bundler" ++ toString (n + 1) := by
  cases hcodec : field.codec? with
  | none =>
    have hsame : controller.codecsWith field = controller.codecs := by
      rw [codecsWith]
      rw [hcodec]
    rw [hsame]
    exact h.codecs_numbered
  | some codec =>
    have hinsert : controller.codecsWith field
        = controller.codecs.insert codec (controller.codecVariable codec) := by
      rw [codecsWith]
      rw [hcodec]
    rw [hinsert]
    cases hfind : controller.codecs.find? codec with
    | some varName =>
      have hvar : controller.codecVariable codec = varName := by
        rw [codecVariable]
        rw [hfind]
      rw [hvar, InsertionTable.insert_of_find?_some hfind]
      exact h.codecs_numbered
    | none =>
      have hvar : controller.codecVariable codec
          = "bundler" ++ toString (controller.codecs.size + 1) := by
        rw [codecVariable]
        rw [hfind]
      have hentries := InsertionTable.entries_insert_of_find?_none
        (controller.codecVariable codec) hfind
      have hnumbered := h.codecs_numbered
      rw [InsertionTable.values, InsertionTable.size] at hnumbered ⊢
      rw [hentries, List.map_append, List.length_append, hnumbered, hvar, List.length_singleton,
        List.range_succ, List.map_append]
      rfl

/-- A required argument that is added comes into the table under its name. -/
theorem find?_required_add (hfresh : field.codecVariable? = none)
    (hadd : controller.add field required = .ok next) (name : String) :
    next.required.find? name = if required = true ∧ name = field.variableName
      then some (controller.withCodecVariable field) else controller.required.find? name := by
  obtain ⟨-, -, rfl⟩ := add_eq_ok hfresh hadd
  cases required with
  | true => simp only [if_true, SortedTable.find?_insert, true_and]
  | false => simp only [Bool.false_eq_true, if_false, false_and]

/-- So does an optional one. -/
theorem find?_optional_add (hfresh : field.codecVariable? = none)
    (hadd : controller.add field required = .ok next) (name : String) :
    next.optional.find? name = if (!required) = true ∧ name = field.variableName
      then some (controller.withCodecVariable field) else controller.optional.find? name := by
  obtain ⟨-, -, rfl⟩ := add_eq_ok hfresh hadd
  cases required with
  | true => simp only [if_true, Bool.not_true, Bool.false_eq_true, false_and, if_false]
  | false =>
    simp only [Bool.false_eq_true, if_false, SortedTable.find?_insert, Bool.not_false, true_and]

/-- What is found in a table to which an argument may have been added stands under its name, if what was
found before does. -/
theorem variableName_of_find?_add {name : String} {other : ArgField} {before : Option ArgField}
    {added : Bool} (hbefore : before = some other → other.variableName = name)
    (hfind : (if added = true ∧ name = field.variableName
      then some (controller.withCodecVariable field) else before) = some other) :
    other.variableName = name := by
  split at hfind
  · next hself =>
    rw [← Option.some.inj hfind, hself.2]
    rfl
  · exact hbefore hfind

/-! What the tables agree in, they agree in after an argument was added. -/

namespace Consistent

variable {name : String} {other : ArgField} (h : Consistent controller)
  (hfresh : field.codecVariable? = none) (hadd : controller.add field required = .ok next)

include h hfresh hadd

theorem required_name_add (hfind : next.required.find? name = some other) :
    other.variableName = name := by
  rw [find?_required_add hfresh hadd] at hfind
  exact variableName_of_find?_add h.required_name hfind

theorem optional_name_add (hfind : next.optional.find? name = some other) :
    other.variableName = name := by
  rw [find?_optional_add hfresh hadd] at hfind
  exact variableName_of_find?_add h.optional_name hfind

theorem disjoint_add (hfind : next.required.find? name = some other) :
    next.optional.find? name = none := by
  -- The new name was in neither table, so it does not come into both.
  obtain ⟨hnorequired, hnooptional⟩ := find?_of_field?_eq_none (add_eq_ok hfresh hadd).1
  rw [find?_required_add hfresh hadd] at hfind
  rw [find?_optional_add hfresh hadd]
  split at hfind
  · next hself =>
    rw [if_neg (by simp [hself.1]), hself.2]
    exact hnooptional
  · rw [if_neg ?_]
    · exact h.disjoint hfind
    · rintro ⟨-, rfl⟩
      rw [hnorequired] at hfind
      cases hfind

/-- The new key leads to the new argument only, since no other argument has it. -/
theorem key_iff_add_self :
    next.keys.find? field.key = some name ↔
      ∃ other, next.field? name = some other ∧ other.key = field.key := by
  obtain ⟨-, hkey, heq⟩ := add_eq_ok hfresh hadd
  have hkeys : next.keys = controller.keys.insert field.key field.variableName := by rw [heq]
  rw [hkeys, InsertionTable.find?_insert, field?_add hfresh hadd, if_pos rfl]
  constructor
  · intro hsome
    rw [if_pos (Option.some.inj hsome).symm]
    exact ⟨_, rfl, rfl⟩
  · rintro ⟨other, hother, hotherkey⟩
    split at hother
    · next hnamed => rw [hnamed]
    · have hmem : other ∈ controller.arguments := by
        rw [h.mem_arguments_iff, h.name_of_field? hother, hother]
      exact absurd hotherkey (h.fieldOfKey?_eq_none_iff.1 hkey other hmem)

/-- Any other key leads where it led before, because the new name led nowhere. -/
theorem key_iff_add_of_ne {key : String} (hother : key ≠ field.key) :
    next.keys.find? key = some name ↔
      ∃ other, next.field? name = some other ∧ other.key = key := by
  obtain ⟨hname, -, heq⟩ := add_eq_ok hfresh hadd
  have hkeys : next.keys = controller.keys.insert field.key field.variableName := by rw [heq]
  rw [hkeys, InsertionTable.find?_insert, field?_add hfresh hadd, if_neg hother, h.key_iff]
  constructor
  · rintro ⟨found, hfound, hkey⟩
    refine ⟨found, ?_, hkey⟩
    rw [if_neg ?_, hfound]
    rintro rfl
    rw [hname] at hfound
    cases hfound
  · rintro ⟨found, hfound, hkey⟩
    split at hfound
    · rw [← Option.some.inj hfound] at hkey
      exact absurd hkey.symm hother
    · exact ⟨found, hfound, hkey⟩

/-- The new argument has its variable from the table, which keeps the older variables. -/
theorem codec_variable_add (hfind : next.field? name = some other) :
    match other.codec? with
    | none => other.codecVariable? = none
    | some codec => ∃ varName, next.codecs.find? codec = some varName ∧
        other.codecVariable? = some varName := by
  obtain ⟨-, -, heq⟩ := add_eq_ok hfresh hadd
  have hcodecs : next.codecs = controller.codecsWith field := by rw [heq]
  rw [field?_add hfresh hadd] at hfind
  rw [hcodecs]
  split at hfind
  · rw [← Option.some.inj hfind]
    rw [withCodecVariable]
    cases hcodec : field.codec? with
    | none => rfl
    | some codec => exact ⟨_, find?_codecsWith_self hcodec, rfl⟩
  · have hbefore := h.codec_variable hfind
    cases hcodec : other.codec? with
    | none =>
      rw [hcodec] at hbefore
      exact hbefore
    | some codec =>
      rw [hcodec] at hbefore
      obtain ⟨varName, hvariable, hvar⟩ := hbefore
      exact ⟨varName, find?_codecsWith_of_find? field hvariable, hvar⟩

/-- Adding an argument keeps the tables in agreement. -/
theorem add : Consistent next where
  required_name := h.required_name_add hfresh hadd
  optional_name := h.optional_name_add hfresh hadd
  disjoint := h.disjoint_add hfresh hadd
  key_iff key name := by
    by_cases hself : key = field.key
    · rw [hself]
      exact h.key_iff_add_self hfresh hadd
    · exact h.key_iff_add_of_ne hfresh hadd hself
  codec_variable := h.codec_variable_add hfresh hadd
  codecs_numbered := by
    obtain ⟨-, -, rfl⟩ := add_eq_ok hfresh hadd
    exact codecsWith_numbered h field

end Consistent

/-- An argument that is added comes to the arguments that are there. -/
theorem arguments_add (hfresh : field.codecVariable? = none)
    (hadd : controller.add field required = .ok next) :
    next.arguments.Perm (controller.withCodecVariable field :: controller.arguments) := by
  obtain ⟨hname, -, rfl⟩ := add_eq_ok hfresh hadd
  obtain ⟨hnorequired, hnooptional⟩ := find?_of_field?_eq_none hname
  rw [arguments]
  cases required with
  | true => exact (SortedTable.values_insert_perm _ hnorequired).append_right _
  | false =>
    apply ((SortedTable.values_insert_perm _ hnooptional).append_left _).trans
    exact List.perm_middle

end Add

/-! ### Assigning a setter -/

/-- An argument that a setter assigns. -/
def withSetter (setter : String) (field : ArgField) : ArgField :=
  { field with setter? := some setter }

/-- Everything that assigning a setter can do. -/
theorem assignSetter_cases (controller : Controller) (varName setter : String) :
    (∃ field, controller.required.find? varName = some field ∧
      controller.assignSetter varName setter = { controller with
        required := controller.required.insert varName (withSetter setter field) }) ∨
    (controller.required.find? varName = none ∧ ∃ field,
      controller.optional.find? varName = some field ∧
      controller.assignSetter varName setter = { controller with
        optional := controller.optional.insert varName (withSetter setter field) }) ∨
    (controller.field? varName = none ∧ controller.assignSetter varName setter = controller) := by
  rw [assignSetter, field?]
  dsimp only
  cases controller.required.find? varName with
  | some field => exact .inl ⟨field, rfl, rfl⟩
  | none =>
    cases controller.optional.find? varName with
    | some field => exact .inr (.inl ⟨rfl, field, rfl, rfl⟩)
    | none => exact .inr (.inr ⟨rfl, rfl⟩)

section Assign

variable {controller : Controller} (varName setter name : String)

theorem required_assignSetter :
    (controller.assignSetter varName setter).required.find? name = if name = varName
      then (controller.required.find? name).map (withSetter setter)
      else controller.required.find? name := by
  rcases assignSetter_cases controller varName setter with
    ⟨field, hfind, heq⟩ | ⟨hnone, field, hfind, heq⟩ | ⟨hnone, heq⟩
  · rw [heq]
    dsimp only
    rw [SortedTable.find?_insert]
    split
    · next hself =>
      rw [hself, hfind]
      rfl
    · rfl
  · rw [heq]
    split
    · next hself =>
      rw [hself]
      exact hnone.trans (congrArg (Option.map (withSetter setter)) hnone).symm
    · rfl
  · rw [heq]
    split
    · next hself =>
      rw [hself, (find?_of_field?_eq_none hnone).1]
      rfl
    · rfl

theorem optional_assignSetter (h : Consistent controller) :
    (controller.assignSetter varName setter).optional.find? name = if name = varName
      then (controller.optional.find? name).map (withSetter setter)
      else controller.optional.find? name := by
  rcases assignSetter_cases controller varName setter with
    ⟨field, hfind, heq⟩ | ⟨hnone, field, hfind, heq⟩ | ⟨hnone, heq⟩
  · have hnooptional := h.disjoint hfind
    rw [heq]
    split
    · next hself =>
      rw [hself]
      exact hnooptional.trans (congrArg (Option.map (withSetter setter)) hnooptional).symm
    · rfl
  · rw [heq]
    dsimp only
    rw [SortedTable.find?_insert]
    split
    · next hself =>
      rw [hself, hfind]
      rfl
    · rfl
  · rw [heq]
    split
    · next hself =>
      rw [hself, (find?_of_field?_eq_none hnone).2]
      rfl
    · rfl

/-- Assigning a setter changes the argument of the name and nothing else. -/
theorem field?_assignSetter (h : Consistent controller) :
    (controller.assignSetter varName setter).field? name = if name = varName
      then (controller.field? name).map (withSetter setter) else controller.field? name := by
  simp only [field?]
  rw [required_assignSetter, optional_assignSetter varName setter name h]
  by_cases hself : name = varName
  · simp only [hself, if_true]
    cases controller.required.find? varName <;> rfl
  · simp only [hself, if_false]

end Assign

theorem assignSetter_codecs (controller : Controller) (varName setter : String) :
    (controller.assignSetter varName setter).codecs = controller.codecs := by
  rcases assignSetter_cases controller varName setter with
    ⟨field, -, heq⟩ | ⟨-, field, -, heq⟩ | ⟨-, heq⟩ <;> rw [heq]

theorem assignSetter_keys (controller : Controller) (varName setter : String) :
    (controller.assignSetter varName setter).keys = controller.keys := by
  rcases assignSetter_cases controller varName setter with
    ⟨field, -, heq⟩ | ⟨-, field, -, heq⟩ | ⟨-, heq⟩ <;> rw [heq]

/-- What does not depend on setters stays as it is when a setter is assigned. -/
theorem arguments_assignSetter {α : Type} (controller : Controller) (varName setter : String)
    (view : ArgField → α) (hview : ∀ field, view (withSetter setter field) = view field) :
    (controller.assignSetter varName setter).arguments.map view
      = controller.arguments.map view := by
  simp only [arguments]
  rcases assignSetter_cases controller varName setter with
    ⟨field, hfind, heq⟩ | ⟨-, field, hfind, heq⟩ | ⟨-, heq⟩
  · rw [heq, List.map_append, List.map_append,
      SortedTable.map_values_insert view hfind (hview field)]
  · rw [heq, List.map_append, List.map_append,
      SortedTable.map_values_insert view hfind (hview field)]
  · rw [heq]

/-- An argument after a setter was assigned, and the argument that it was before. -/
theorem before_of_assigned {varName setter name : String} {found? : Option ArgField}
    {field : ArgField}
    (h : (if name = varName then found?.map (withSetter setter) else found?) = some field) :
    ∃ before, found? = some before ∧ (field = before ∨ field = withSetter setter before) := by
  split at h
  · obtain ⟨before, hbefore, rfl⟩ := Option.map_eq_some_iff.1 h
    exact ⟨before, hbefore, .inr rfl⟩
  · exact ⟨field, h, .inl rfl⟩

/-- Assigning a setter keeps the tables in agreement. -/
theorem Consistent.assignSetter {controller : Controller} (h : Consistent controller)
    (varName setter : String) : Consistent (controller.assignSetter varName setter) := by
  refine ⟨?_, ?_, ?_, ?_, ?_, ?_⟩
  · intro name field hfind
    rw [required_assignSetter] at hfind
    obtain ⟨before, hbefore, rfl | rfl⟩ := before_of_assigned hfind
    · exact h.required_name hbefore
    · have hbase := h.required_name hbefore
      exact hbase
  · intro name field hfind
    rw [optional_assignSetter varName setter name h] at hfind
    obtain ⟨before, hbefore, rfl | rfl⟩ := before_of_assigned hfind
    · exact h.optional_name hbefore
    · have hbase := h.optional_name hbefore
      exact hbase
  · intro name field hfind
    rw [required_assignSetter] at hfind
    obtain ⟨before, hbefore, -⟩ := before_of_assigned hfind
    rw [optional_assignSetter varName setter name h, h.disjoint hbefore]
    split <;> rfl
  · intro key name
    rw [assignSetter_keys, field?_assignSetter varName setter name h, h.key_iff]
    constructor
    · rintro ⟨field, hfield, hkey⟩
      rw [hfield]
      split
      · exact ⟨withSetter setter field, rfl, hkey⟩
      · exact ⟨field, rfl, hkey⟩
    · rintro ⟨field, hfield, hkey⟩
      obtain ⟨before, hbefore, rfl | rfl⟩ := before_of_assigned hfield
      · exact ⟨field, hbefore, hkey⟩
      · exact ⟨before, hbefore, hkey⟩
  · intro name field hfield
    rw [field?_assignSetter varName setter name h] at hfield
    rw [assignSetter_codecs]
    obtain ⟨before, hbefore, rfl | rfl⟩ := before_of_assigned hfield
    · exact h.codec_variable hbefore
    · have hbase := h.codec_variable hbefore
      exact hbase
  · rw [assignSetter_codecs]
    exact h.codecs_numbered

/-! ## Every controller that is built -/

/-- However a controller was built, its tables agree with each other. -/
theorem Built.consistent {decl : ClassDecl} {inherited : Bool} {controller : Controller}
    (h : Built decl inherited controller) : Consistent controller := by
  induction h with
  | start => exact consistent_ofClass decl inherited
  | add _ hfresh hadd ih => exact ih.add hfresh hadd
  | registerSetter candidate _ ih => exact ih.registerSetter candidate
  | assignSetter varName setter _ ih => exact ih.assignSetter varName setter

/-- A controller none of whose arguments needs a setter stays as it is. -/
theorem resolveSetters_of_direct {controller : Controller}
    (h : ∀ field ∈ controller.arguments, controller.needsSetter field = false) :
    controller.resolveSetters = .ok controller := by
  have hfields : ∀ field ∈ controller.fields, controller.needsSetter field = false := by
    intro field hmem
    exact h field (mem_fields_iff.1 hmem)
  have hnone : controller.setterAssignments controller.fields = .ok [] := by
    generalize controller.fields = fields at hfields
    induction fields with
    | nil => rfl
    | cons field fields ih =>
      rw [setterAssignments, if_neg (by simp [hfields field List.mem_cons_self])]
      exact ih fun other hmem => hfields other (List.mem_cons_of_mem _ hmem)
  rw [resolveSetters]
  rw [hnone]
  rfl

end BundleBuilder.Controller
