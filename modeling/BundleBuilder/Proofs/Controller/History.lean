import BundleBuilder.Proofs.Controller.Consistency
import Mathlib.Data.List.Induction
import Mathlib.Data.List.Nodup

/-!
# The history of a controller

A controller lives through any sequence of changes: arguments are offered as required or optional
ones, setters are remembered and assigned. An argument that is refused changes nothing. After every
history the tables say the same about the arguments (`replay_consistent`): names, keys and codec
variables lead to one argument each, and codecs are numbered in the order in which accepted arguments
first used them.
-/

set_option autoImplicit false

namespace BundleBuilder.Controller

open Table

/-! ## Changes -/

/-- What can happen to a controller. -/
inductive Change where
  | addRequired (field : ArgField)
  | addOptional (field : ArgField)
  | registerSetter (candidate : SetterCandidate)
  | assignSetter (varName setter : String)

/-- The argument that a change offers. -/
def Change.argument? : Change → Option ArgField
  | .addRequired field | .addOptional field => some field
  | .registerSetter _ | .assignSetter _ _ => none

/-- The controller after a change, with the error if the change was refused. -/
def change (controller : Controller) : Change → Controller × Option ProcessingError
  | .addRequired field => controller.offer field true
  | .addOptional field => controller.offer field false
  | .registerSetter candidate => (controller.registerSetter candidate, none)
  | .assignSetter varName setter => (controller.assignSetter varName setter, none)

/-- The controller after changes in their order, refused ones among them. -/
def replay (controller : Controller) (changes : List Change) : Controller :=
  changes.foldl (fun controller next => (controller.change next).1) controller

/-- The argument that a change adds: the one that it offers, unless it is refused. -/
def acceptedArgument? (controller : Controller) (next : Change) : Option ArgField :=
  if (controller.change next).2.isNone then next.argument? else none

/-- The arguments that changes add, in the order in which they are added. -/
def acceptedArguments (controller : Controller) : List Change → List ArgField
  | [] => []
  | next :: changes =>
    (controller.acceptedArgument? next).toList
      ++ acceptedArguments (controller.change next).1 changes

/-- Everything that a change can do. -/
theorem change_cases (controller : Controller) (next : Change) :
    (∃ field required added, next.argument? = some field ∧
      controller.add field required = .ok added ∧ controller.change next = (added, none)) ∨
    (∃ field required error, next.argument? = some field ∧
      controller.add field required = .error error ∧
      controller.change next = (controller, some error)) ∨
    (∃ candidate, next = .registerSetter candidate ∧
      controller.change next = (controller.registerSetter candidate, none)) ∨
    ∃ varName setter, next = .assignSetter varName setter ∧
      controller.change next = (controller.assignSetter varName setter, none) := by
  have hoffer : ∀ field required, next.argument? = some field →
      controller.change next = controller.offer field required →
      (∃ field required added, next.argument? = some field ∧
        controller.add field required = .ok added ∧ controller.change next = (added, none)) ∨
      ∃ field required error, next.argument? = some field ∧
        controller.add field required = .error error ∧
        controller.change next = (controller, some error) := by
    intro field required hargument hchange
    cases hadd : controller.add field required with
    | ok added =>
      rw [offer_of_add_eq_ok hadd] at hchange
      exact .inl ⟨field, required, added, hargument, hadd, hchange⟩
    | error error =>
      rw [offer_of_add_eq_error hadd] at hchange
      exact .inr ⟨field, required, error, hargument, hadd, hchange⟩
  cases next with
  | addRequired field => exact (hoffer field true rfl rfl).imp_right .inl
  | addOptional field => exact (hoffer field false rfl rfl).imp_right .inl
  | registerSetter candidate => exact .inr (.inr (.inl ⟨candidate, rfl, rfl⟩))
  | assignSetter varName setter => exact .inr (.inr (.inr ⟨varName, setter, rfl, rfl⟩))

theorem replay_concat (controller : Controller) (changes : List Change) (next : Change) :
    controller.replay (changes ++ [next]) = ((controller.replay changes).change next).1 := by
  rw [replay, List.foldl_append]
  rfl

theorem acceptedArguments_concat (changes : List Change) (next : Change) :
    ∀ controller : Controller, controller.acceptedArguments (changes ++ [next])
      = controller.acceptedArguments changes
        ++ ((controller.replay changes).acceptedArgument? next).toList := by
  induction changes with
  | nil =>
    intro controller
    simp [acceptedArguments, replay]
  | cons first changes ih =>
    intro controller
    simp only [List.cons_append, acceptedArguments, ih, List.append_assoc]
    rfl

/-! ## What a refusal says -/

section Refusal

variable {controller : Controller}

theorem Consistent.field?_eq_some_iff_mem (h : Consistent controller) {name : String}
    {owner : ArgField} :
    controller.field? name = some owner ↔
      owner ∈ controller.fields ∧ owner.variableName = name := by
  rw [mem_fields_iff, h.mem_arguments_iff]
  constructor
  · intro hfound
    have hname := h.name_of_field? hfound
    rw [hname]
    exact ⟨hfound, rfl⟩
  · rintro ⟨hfound, rfl⟩
    exact hfound

theorem Consistent.fieldOfKey?_eq_some_iff_mem (h : Consistent controller) {key : String}
    {owner : ArgField} :
    controller.fieldOfKey? key = some owner ↔ owner ∈ controller.fields ∧ owner.key = key := by
  rw [fieldOfKey?, Option.bind_eq_some_iff]
  constructor
  · rintro ⟨name, hname, hfound⟩
    obtain ⟨other, hother, hkey⟩ := (h.key_iff key name).1 hname
    rw [hfound] at hother
    cases hother
    exact ⟨(h.field?_eq_some_iff_mem.1 hfound).1, hkey⟩
  · rintro ⟨hmem, hkey⟩
    have hfound := h.field?_eq_some_iff_mem.2 ⟨hmem, rfl⟩
    exact ⟨owner.variableName, (h.key_iff key _).2 ⟨owner, hfound, hkey⟩, hfound⟩

/-- An argument is refused for its variable name, or else for its key; the error names the argument
that owns it. -/
theorem add_eq_error_iff (h : Consistent controller) {field : ArgField} {required : Bool}
    {error : ProcessingError} :
    controller.add field required = .error error ↔
      (∃ owner ∈ controller.fields, owner.variableName = field.variableName ∧
        error = .duplicateVariable field.variableName field.site owner.site) ∨
      ((∀ other ∈ controller.fields, other.variableName ≠ field.variableName) ∧
        ∃ owner ∈ controller.fields, owner.key = field.key ∧
          error = .duplicateKey field.key field.site owner.site) := by
  rw [add_eq]
  cases hname : controller.field? field.variableName with
  | some existing =>
    obtain ⟨hmem, hsame⟩ := h.field?_eq_some_iff_mem.1 hname
    constructor
    · intro heq
      exact .inl ⟨existing, hmem, hsame, (Except.error.inj heq).symm⟩
    · rintro (⟨owner, hother, hotherName, rfl⟩ | ⟨hnone, -⟩)
      · have hboth := h.field?_eq_some_iff_mem.2 ⟨hother, hotherName⟩
        rw [hname] at hboth
        rw [Option.some.inj hboth]
      · exact absurd hsame (hnone existing hmem)
  | none =>
    have hnone : ∀ other ∈ controller.fields, other.variableName ≠ field.variableName := by
      intro other hother hotherName
      have hfound := h.field?_eq_some_iff_mem.2 ⟨hother, hotherName⟩
      rw [hname] at hfound
      cases hfound
    dsimp only
    cases hkey : controller.fieldOfKey? field.key with
    | some existing =>
      obtain ⟨hmem, hsame⟩ := h.fieldOfKey?_eq_some_iff_mem.1 hkey
      constructor
      · intro heq
        exact .inr ⟨hnone, existing, hmem, hsame, (Except.error.inj heq).symm⟩
      · rintro (⟨owner, hother, hotherName, -⟩ | ⟨-, owner, hother, hotherKey, rfl⟩)
        · exact absurd hotherName (hnone owner hother)
        · have hboth := h.fieldOfKey?_eq_some_iff_mem.2 ⟨hother, hotherKey⟩
          rw [hkey] at hboth
          rw [Option.some.inj hboth]
    | none =>
      constructor
      · intro heq
        cases heq
      · rintro (⟨owner, hother, hotherName, -⟩ | ⟨-, owner, hother, hotherKey, -⟩)
        · exact absurd hotherName (hnone owner hother)
        · have hfound := h.fieldOfKey?_eq_some_iff_mem.2 ⟨hother, hotherKey⟩
          rw [hkey] at hfound
          cases hfound

end Refusal

/-! ## Codecs in the order of their first use -/

theorem keys_codecsWith (controller : Controller) (field : ArgField) :
    (controller.codecsWith field).keys
      = controller.codecs.keys ++ field.codec?.toList.removeAll controller.codecs.keys := by
  rw [codecsWith]
  cases field.codec? with
  | none => simp
  | some codec =>
    dsimp only
    rw [InsertionTable.keys_insert]
    by_cases hmem : codec ∈ controller.codecs.keys
    · simp [List.removeAll, hmem]
    · simp [List.removeAll, hmem]

/-- A change makes the codec of the argument that it adds known, behind those known before. -/
theorem keys_codecs_change (controller : Controller) (next : Change)
    (hfresh : ∀ field, next.argument? = some field → field.codecVariable? = none) :
    (controller.change next).1.codecs.keys = controller.codecs.keys ++
      ((controller.acceptedArgument? next).bind (·.codec?)).toList.removeAll
        controller.codecs.keys := by
  rw [acceptedArgument?]
  rcases change_cases controller next with
    ⟨field, required, added, hargument, hadd, heq⟩ | ⟨field, required, error, -, -, heq⟩ |
    ⟨candidate, rfl, heq⟩ | ⟨varName, setter, rfl, heq⟩
  · obtain ⟨-, -, rfl⟩ := add_eq_ok (hfresh field hargument) hadd
    rw [heq, hargument]
    exact keys_codecsWith controller field
  · simp [heq]
  · obtain ⟨setters, hsetters⟩ := registerSetter_eq controller candidate
    rw [heq, hsetters]
    simp [Change.argument?]
  · rw [heq, assignSetter_codecs]
    simp [Change.argument?]

/-- A further word is new to a list without repetitions unless it is in the list. -/
theorem eraseDups_append_toList (used : List String) (more : Option String) :
    (used ++ more.toList).eraseDups
      = used.eraseDups ++ more.toList.removeAll used.eraseDups := by
  rw [List.eraseDups_append]
  cases more with
  | none => simp
  | some word =>
    by_cases hmem : word ∈ used
    · simp [List.removeAll, hmem]
    · simp [List.removeAll, hmem, List.eraseDups_cons]

/-- Whether changes offer arguments as they are collected, before they have a codec variable. -/
def AreFresh (changes : List Change) : Prop :=
  ∀ next ∈ changes, ∀ field, next.argument? = some field → field.codecVariable? = none

/-- Codecs are known in the order in which accepted arguments first used them. -/
theorem keys_codecs_replay (decl : ClassDecl) (inherited : Bool) (changes : List Change)
    (hfresh : AreFresh changes) :
    (replay (ofClass decl inherited) changes).codecs.keys
      = ((acceptedArguments (ofClass decl inherited) changes).filterMap (·.codec?)).eraseDups := by
  -- The induction is on the history from its end, as the last change adds at the end.
  induction changes using List.reverseRecOn with
  | nil => rfl
  | append_singleton changes next ih =>
    have hbefore := ih fun other hother => hfresh other (List.mem_append_left _ hother)
    have hnext := hfresh next (List.mem_append_right _ (List.mem_singleton_self next))
    have hmore : (((replay (ofClass decl inherited) changes).acceptedArgument? next).toList
        ).filterMap (·.codec?)
        = (((replay (ofClass decl inherited) changes).acceptedArgument? next).bind
            (·.codec?)).toList := by
      cases (replay (ofClass decl inherited) changes).acceptedArgument? next with
      | none => rfl
      | some field => cases hcodec : field.codec? <;> simp [hcodec]
    rw [replay_concat, keys_codecs_change _ _ hnext, hbefore, acceptedArguments_concat,
      List.filterMap_append, hmore, eraseDups_append_toList]

/-! ## Every history -/

/-- However long its history, a controller is one that can be built. -/
theorem built_replay (decl : ClassDecl) (inherited : Bool) (changes : List Change)
    (hfresh : AreFresh changes) : Built decl inherited (replay (ofClass decl inherited) changes) := by
  induction changes using List.reverseRecOn with
  | nil => exact .start
  | append_singleton changes next ih =>
    have hbefore := ih fun other hother => hfresh other (List.mem_append_left _ hother)
    have hnext := hfresh next (List.mem_append_right _ (List.mem_singleton_self next))
    rw [replay_concat]
    rcases change_cases (replay (ofClass decl inherited) changes) next with
      ⟨field, required, added, hargument, hadd, heq⟩ | ⟨field, required, error, -, -, heq⟩ |
      ⟨candidate, -, heq⟩ | ⟨varName, setter, -, heq⟩
    · rw [heq]
      exact hbefore.add (hnext field hargument) hadd
    · rw [heq]
      exact hbefore
    · rw [heq]
      exact hbefore.registerSetter candidate
    · rw [heq]
      exact hbefore.assignSetter varName setter

/-- Every codec that is known is the codec of an argument. -/
theorem Built.exists_field_of_codec {decl : ClassDecl} {inherited : Bool} {controller : Controller}
    (h : Built decl inherited controller) :
    ∀ codec ∈ controller.codecs.keys, some codec ∈ controller.arguments.map (·.codec?) := by
  induction h with
  | start =>
    intro codec hcodec
    cases hcodec
  | @add before next field required hbuilt hfresh hadd ih =>
    have hperm := (arguments_add hfresh hadd).map (·.codec?)
    obtain ⟨-, -, rfl⟩ := add_eq_ok hfresh hadd
    intro codec hcodec
    rw [hperm.mem_iff, List.map_cons, List.mem_cons]
    have hkeys : codec ∈ (before.codecsWith field).keys := hcodec
    rw [keys_codecsWith, List.mem_append] at hkeys
    rcases hkeys with hold | hnew
    · exact .inr (ih codec hold)
    · have hown : codec ∈ field.codec?.toList := (List.mem_filter.1 hnew).1
      exact .inl (Option.mem_toList.1 hown).symm
  | registerSetter candidate hbuilt ih =>
    intro codec hcodec
    obtain ⟨setters, heq⟩ := registerSetter_eq _ candidate
    rw [heq] at hcodec ⊢
    exact ih codec hcodec
  | assignSetter varName setter hbuilt ih =>
    intro codec hcodec
    rw [assignSetter_codecs] at hcodec
    rw [arguments_assignSetter _ varName setter (·.codec?) fun field => rfl]
    exact ih codec hcodec

/-- No variable name is both required and optional. -/
theorem Consistent.keys_nodup {controller : Controller} (h : Consistent controller) :
    (controller.required.keys ++ controller.optional.keys).Nodup := by
  rw [List.nodup_append]
  refine ⟨controller.required.sorted.keys_nodup, controller.optional.sorted.keys_nodup, ?_⟩
  intro name hrequired other hoptional heq
  obtain ⟨⟨key, field⟩, hentry, rfl⟩ := List.mem_map.1 hrequired
  obtain ⟨⟨otherKey, twin⟩, htwin, rfl⟩ := List.mem_map.1 hoptional
  obtain rfl : key = otherKey := heq
  have hnone := h.disjoint ((SortedTable.mem_entries_iff _ key field).1 hentry)
  have hother := (SortedTable.mem_entries_iff _ key twin).1 htwin
  rw [hnone] at hother
  cases hother

/-- The entries of a sorted table are in ascending order. -/
theorem pairwise_entries_le (table : SortedTable ArgField) :
    table.entries.Pairwise fun a b => decide (a.1 ≤ b.1) = true := by
  apply table.sorted.imp
  intro a b hlt
  apply decide_eq_true
  intro hgt
  exact String.lt_irrefl a.1 (String.lt_trans hlt hgt)

/-- The arguments are listed in strictly ascending order of their variable names. -/
theorem Consistent.fields_pairwise {controller : Controller} (h : Consistent controller) :
    controller.fields.Pairwise fun a b => a.variableName < b.variableName := by
  rw [fields]
  have hperm : (controller.required.entries.merge controller.optional.entries
      fun a b => decide (a.1 ≤ b.1)).Perm
        (controller.required.entries ++ controller.optional.entries) :=
    List.merge_perm_append _
  have hnamed : ∀ entry ∈ controller.required.entries.merge controller.optional.entries
      fun a b => decide (a.1 ≤ b.1), entry.2.variableName = entry.1 := by
    rintro ⟨name, field⟩ hentry
    rcases List.mem_append.1 (hperm.mem_iff.1 hentry) with hentry | hentry
    · exact h.required_name ((SortedTable.mem_entries_iff _ name field).1 hentry)
    · exact h.optional_name ((SortedTable.mem_entries_iff _ name field).1 hentry)
  have hdistinct : (controller.required.entries.merge controller.optional.entries
      fun a b => decide (a.1 ≤ b.1)).Pairwise fun a b => a.1 ≠ b.1 := by
    apply hperm.symm.pairwise ?_ fun hne => hne.symm
    have hkeys := h.keys_nodup
    rw [SortedTable.keys, SortedTable.keys, ← List.map_append, List.Nodup,
      List.pairwise_map] at hkeys
    exact hkeys
  have hordered : (controller.required.entries.merge controller.optional.entries
      fun a b => decide (a.1 ≤ b.1)).Pairwise fun a b => decide (a.1 ≤ b.1) = true := by
    refine List.pairwise_merge ?_ ?_ _ _ (pairwise_entries_le _) (pairwise_entries_le _)
    · intro a b c hab hbc
      simp only [decide_eq_true_eq] at hab hbc ⊢
      exact String.le_trans hab hbc
    · intro a b
      simp only [Bool.or_eq_true, decide_eq_true_eq]
      exact String.le_total a.1 b.1
  rw [List.pairwise_map]
  apply (hordered.and hdistinct).imp_of_mem
  rintro a b ha hb ⟨hle, hne⟩
  rw [hnamed a ha, hnamed b hb]
  exact lt_of_not_lt_of_ne (of_decide_eq_true hle) hne.symm

/-- No argument is listed twice. -/
theorem Consistent.arguments_nodup {controller : Controller} (h : Consistent controller) :
    controller.arguments.Nodup := by
  have hfields : controller.fields.Nodup := by
    apply h.fields_pairwise.imp
    rintro field _ hlt rfl
    exact String.lt_irrefl _ hlt
  exact (fields_perm_arguments controller).nodup_iff.1 hfields

/-- No two required arguments have one variable name. -/
theorem Consistent.requiredNames_nodup {controller : Controller} (h : Consistent controller) :
    (controller.required.values.map ArgField.variableName).Nodup := by
  have hnames : controller.required.values.map ArgField.variableName = controller.required.keys := by
    rw [SortedTable.values, SortedTable.keys, List.map_map]
    apply List.map_congr_left
    rintro ⟨name, field⟩ hentry
    exact h.required_name ((SortedTable.mem_entries_iff _ name field).1 hentry)
  rw [hnames]
  exact controller.required.sorted.keys_nodup

/-- No two keys lead to the same variable name. -/
theorem Consistent.keys_values_nodup {controller : Controller} (h : Consistent controller) :
    controller.keys.values.Nodup := by
  have hentries : controller.keys.entries.Nodup := List.Nodup.of_map Prod.fst
    controller.keys.keys_nodup
  apply hentries.map_on
  rintro ⟨key, name⟩ hentry ⟨otherKey, otherName⟩ hother heq
  obtain rfl : name = otherName := heq
  obtain ⟨field, hfield, rfl⟩ :=
    (h.key_iff key name).1 ((InsertionTable.mem_entries_iff _ _ _).1 hentry)
  obtain ⟨twin, htwin, rfl⟩ :=
    (h.key_iff otherKey name).1 ((InsertionTable.mem_entries_iff _ _ _).1 hother)
  rw [hfield] at htwin
  rw [Option.some.inj htwin]

/-- An argument has the variable of its codec, and none without a codec. -/
theorem Consistent.codecVariable?_eq {controller : Controller} (h : Consistent controller)
    {field : ArgField} (hfield : field ∈ controller.fields) :
    field.codecVariable? = field.codec?.bind controller.codecs.find? := by
  have hvariable := h.codec_variable (h.field?_eq_some_iff_mem.2 ⟨hfield, rfl⟩)
  cases hcodec : field.codec? with
  | none =>
    rw [hcodec] at hvariable
    exact hvariable
  | some codec =>
    rw [hcodec] at hvariable
    obtain ⟨varName, hfind, hown⟩ := hvariable
    rw [hown]
    exact hfind.symm

/-- The known codecs are those that the arguments use. -/
theorem Built.mem_codecs_iff {decl : ClassDecl} {inherited : Bool} {controller : Controller}
    (h : Built decl inherited controller) (codec : String) :
    codec ∈ controller.codecs.keys ↔ ∃ field ∈ controller.fields, field.codec? = some codec := by
  constructor
  · intro hcodec
    obtain ⟨field, hfield, hown⟩ := List.mem_map.1 (h.exists_field_of_codec codec hcodec)
    exact ⟨field, mem_fields_iff.2 hfield, hown⟩
  · rintro ⟨field, hfield, hown⟩
    have hvariable := h.consistent.codec_variable
      (h.consistent.field?_eq_some_iff_mem.2 ⟨hfield, rfl⟩)
    rw [hown] at hvariable
    obtain ⟨varName, hfind, -⟩ := hvariable
    exact InsertionTable.mem_keys_of_find? hfind

/-- After any history of changes: no name is both required and optional, and every argument stands
under its own name; the key table and the names of the arguments correspond one to one; the codecs
that the arguments use have the variables from one upwards in the order in which they were first
accepted, and every argument has the variable of its codec; the arguments are listed once each, in
the order of their names; and a further argument that is refused changes nothing and is told which
argument owns its name, or else its key. -/
theorem replay_consistent (decl : ClassDecl) (inherited : Bool) (changes : List Change)
    (hfresh : AreFresh changes) :
    let controller := replay (ofClass decl inherited) changes
    let accepted := acceptedArguments (ofClass decl inherited) changes
    ((controller.required.keys ++ controller.optional.keys).Nodup ∧
      (∀ name field, controller.required.find? name = some field → field.variableName = name) ∧
      ∀ name field, controller.optional.find? name = some field → field.variableName = name) ∧
    ((∀ key name, controller.keys.find? key = some name ↔
        ∃ field ∈ controller.fields, field.key = key ∧ field.variableName = name) ∧
      controller.keys.values.Nodup) ∧
    (controller.codecs.keys = (accepted.filterMap (·.codec?)).eraseDups ∧
      controller.codecs.values
        = (List.range controller.codecs.size).map (fun n => "bundler" ++ toString (n + 1)) ∧
      controller.codecs.values.Nodup ∧
      (∀ codec, codec ∈ controller.codecs.keys ↔
        ∃ field ∈ controller.fields, field.codec? = some codec) ∧
      ∀ field ∈ controller.fields,
        field.codecVariable? = field.codec?.bind controller.codecs.find?) ∧
    (controller.fields.Pairwise (fun a b => a.variableName < b.variableName) ∧
      controller.fields.Perm (controller.required.values ++ controller.optional.values)) ∧
    ∀ next error, (controller.change next).2 = some error →
      (controller.change next).1 = controller ∧
      ∃ field, next.argument? = some field ∧
        ((∃ owner ∈ controller.fields, owner.variableName = field.variableName ∧
            error = .duplicateVariable field.variableName field.site owner.site) ∨
          ((∀ other ∈ controller.fields, other.variableName ≠ field.variableName) ∧
            ∃ owner ∈ controller.fields, owner.key = field.key ∧
              error = .duplicateKey field.key field.site owner.site)) := by
  intro controller accepted
  have hbuilt : Built decl inherited controller := built_replay decl inherited changes hfresh
  have hconsistent := hbuilt.consistent
  refine ⟨⟨hconsistent.keys_nodup, fun _ _ => hconsistent.required_name,
    fun _ _ => hconsistent.optional_name⟩, ⟨?_, hconsistent.keys_values_nodup⟩,
    ⟨keys_codecs_replay decl inherited changes hfresh, hconsistent.codecs_numbered,
      hconsistent.codecs_values_nodup, hbuilt.mem_codecs_iff,
      fun _ hfield => hconsistent.codecVariable?_eq hfield⟩,
    ⟨hconsistent.fields_pairwise, fields_perm_arguments controller⟩, ?_⟩
  · intro key name
    rw [hconsistent.key_iff]
    constructor
    · rintro ⟨field, hfield, hkey⟩
      obtain ⟨hmem, hname⟩ := hconsistent.field?_eq_some_iff_mem.1 hfield
      exact ⟨field, hmem, hkey, hname⟩
    · rintro ⟨field, hmem, hkey, hname⟩
      exact ⟨field, hconsistent.field?_eq_some_iff_mem.2 ⟨hmem, hname⟩, hkey⟩
  · intro next error hrefused
    rcases change_cases controller next with
      ⟨field, required, added, -, -, heq⟩ | ⟨field, required, refusal, hargument, hadd, heq⟩ |
      ⟨candidate, -, heq⟩ | ⟨varName, setter, -, heq⟩
    · rw [heq] at hrefused
      cases hrefused
    · rw [heq] at hrefused ⊢
      rw [← Option.some.inj hrefused]
      exact ⟨rfl, field, hargument, (add_eq_error_iff hconsistent).1 hadd⟩
    · rw [heq] at hrefused
      cases hrefused
    · rw [heq] at hrefused
      cases hrefused

/-! ### A history with refusals -/

/-- An argument of a fragment, with a codec or stored by its type. -/
def profileField (name key : String) (codec? : Option String) : ArgField where
  name := name
  className := "com.example.Profile"
  classPackage := "com.example"
  type := .named "java.lang.String"
  visibility := .packageAccess
  key := key
  required := true
  codec? := codec?

/-- A class without arguments of its own. -/
def profileDecl : ClassDecl := { name := "com.example.Profile" }

/-- Two arguments are refused: one for its name, whose codec is therefore not counted, and one for its
key. -/
def profileHistory : List Change :=
  [ .addRequired (profileField "mTitle" "title" (some "com.example.Title")),
    .addOptional (profileField "title" "other" (some "com.example.Unused")),
    .addOptional (profileField "date" "date" (some "com.example.Date")),
    .assignSetter "title" "setTitle",
    .addRequired (profileField "subtitle" "title" none),
    .addRequired (profileField "author" "author" (some "com.example.Title")) ]

theorem areFresh_profileHistory : AreFresh profileHistory := by
  intro next hnext field hargument
  simp only [profileHistory, List.mem_cons, List.not_mem_nil, or_false] at hnext
  rcases hnext with rfl | rfl | rfl | rfl | rfl | rfl <;> cases hargument <;> rfl

/-- The codecs of the accepted arguments are numbered in the order of their first use, the codec of
the refused argument not among them; the key `date` leads to the argument of that name. -/
theorem replay_consistent_profile :
    AreFresh profileHistory ∧
      (replay (ofClass profileDecl true) profileHistory).codecs.keys
        = ["com.example.Title", "com.example.Date"] ∧
      ∃ field ∈ (replay (ofClass profileDecl true) profileHistory).fields,
        field.variableName = "date" ∧ field.key = "date" := by
  obtain ⟨-, ⟨hkeys, -⟩, ⟨hcodecs, -⟩, -⟩ :=
    replay_consistent profileDecl true profileHistory areFresh_profileHistory
  have hdate : (replay (ofClass profileDecl true) profileHistory).keys.find? "date"
      = some "date" := by
    decide +kernel
  obtain ⟨field, hmem, hkey, hname⟩ := (hkeys "date" "date").1 hdate
  exact ⟨areFresh_profileHistory, hcodecs.trans (by decide +kernel), field, hmem, hname, hkey⟩

end BundleBuilder.Controller
