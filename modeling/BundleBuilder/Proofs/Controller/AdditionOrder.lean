import BundleBuilder.Proofs.Controller.History

/-!
# Arguments added in different orders

Arguments with distinct variable names and distinct keys can be added to a class in any order. The
tables of the arguments are sorted, so they do not show the order; the codecs are numbered in the order
of their first use, so they do. Controllers to which the same arguments were added in different orders
correspond: one renaming of the codec variables leads from one to the other (`HasAdded.corresponds`).
-/

set_option autoImplicit false

namespace BundleBuilder

open Table

/-! ## Arguments without codec variables -/

namespace ArgField

/-- An argument as it is collected, before its codec has a variable. -/
def bare (field : ArgField) : ArgField := { field with codecVariable? := none }

/-- An argument with the variable that a table gives its codec. -/
def fill (codecs : InsertionTable String) (field : ArgField) : ArgField :=
  { field with codecVariable? := field.codec?.bind codecs.find? }

/-- An argument whose codec variable has another name. -/
def renameCodec (rename : String → String) (field : ArgField) : ArgField :=
  { field with codecVariable? := field.codecVariable?.map rename }

theorem bare_of_fresh {field : ArgField} (hfresh : field.codecVariable? = none) :
    field.bare = field := by
  rw [bare, ← hfresh]

end ArgField

namespace Controller

theorem bare_withCodecVariable {field : ArgField} (controller : Controller)
    (hfresh : field.codecVariable? = none) : (controller.withCodecVariable field).bare = field :=
  field.bare_of_fresh hfresh

/-- An argument of a controller is known up to its codec variable, which is in the codec table. -/
theorem Consistent.fill_bare {controller : Controller} (h : Consistent controller) {field : ArgField}
    (hfield : field ∈ controller.arguments) : field.bare.fill controller.codecs = field := by
  have hvariable := h.codecVariable?_eq (mem_fields_iff.2 hfield)
  rw [ArgField.bare, ArgField.fill]
  dsimp only
  rw [← hvariable]

/-! ## Adding arguments -/

/-- Adds arguments one after the other, each to the set that it says it belongs to. -/
def addAll (controller : Controller) : List ArgField → Except ProcessingError Controller
  | [] => .ok controller
  | field :: fields =>
    match controller.add field field.required with
    | .error error => .error error
    | .ok next => next.addAll fields

theorem addAll_concat {last : Controller} (field : ArgField) (fields : List ArgField) :
    ∀ controller : Controller, controller.addAll fields = .ok last →
      controller.addAll (fields ++ [field]) = last.add field field.required := by
  induction fields with
  | nil =>
    intro controller h
    cases h
    rw [List.nil_append, addAll]
    cases last.add field field.required <;> rfl
  | cons first fields ih =>
    intro controller h
    rw [addAll] at h
    rw [List.cons_append, addAll]
    cases hadd : controller.add first first.required with
    | error error =>
      rw [hadd] at h
      cases h
    | ok next =>
      rw [hadd] at h
      exact ih next h

/-- What a class has become when arguments were added to it, whatever their order. -/
structure HasAdded (decl : ClassDecl) (inherited : Bool) (fields : List ArgField)
    (controller : Controller) : Prop where
  built : Built decl inherited controller
  required : (controller.required.values.map ArgField.bare).Perm (fields.filter (·.required))
  optional : (controller.optional.values.map ArgField.bare).Perm (fields.filter (!·.required))
  /-- Nothing but the tables of the arguments is touched. -/
  untouched : { controller with
    required := .empty, optional := .empty, keys := .empty, codecs := .empty }
      = ofClass decl inherited

namespace HasAdded

variable {decl : ClassDecl} {inherited : Bool} {fields : List ArgField} {controller : Controller}

theorem start (decl : ClassDecl) (inherited : Bool) :
    HasAdded decl inherited [] (ofClass decl inherited) :=
  ⟨.start, .refl _, .refl _, rfl⟩

theorem of_perm {others : List ArgField} (h : HasAdded decl inherited fields controller)
    (hperm : fields.Perm others) : HasAdded decl inherited others controller :=
  ⟨h.built, h.required.trans (hperm.filter _), h.optional.trans (hperm.filter _), h.untouched⟩

theorem arguments_perm (h : HasAdded decl inherited fields controller) :
    (controller.arguments.map ArgField.bare).Perm fields := by
  rw [arguments, List.map_append]
  exact (h.required.append h.optional).trans (List.filter_append_perm _ _)

/-- What does not depend on codec variables is the same for the arguments and for what was added. -/
theorem map_arguments_perm {α : Type} (h : HasAdded decl inherited fields controller)
    (view : ArgField → α) (hview : ∀ field, view field.bare = view field) :
    (controller.arguments.map view).Perm (fields.map view) := by
  have hbare := h.arguments_perm.map view
  have hsame : view ∘ ArgField.bare = view := funext hview
  rw [List.map_map, hsame] at hbare
  exact hbare

/-- An argument whose variable name and key are new is added. -/
theorem exists_add (h : HasAdded decl inherited fields controller) {field : ArgField}
    (hname : field.variableName ∉ fields.map ArgField.variableName)
    (hkey : field.key ∉ fields.map ArgField.key) :
    ∃ next, controller.add field field.required = .ok next := by
  have hnoname : controller.field? field.variableName = none := by
    rw [h.built.consistent.field?_eq_none_iff]
    intro other hother heq
    have hmem := List.mem_map_of_mem (f := ArgField.variableName) hother
    rw [(h.map_arguments_perm ArgField.variableName fun _ => rfl).mem_iff, heq] at hmem
    exact hname hmem
  have hnokey : controller.fieldOfKey? field.key = none := by
    rw [h.built.consistent.fieldOfKey?_eq_none_iff]
    intro other hother heq
    have hmem := List.mem_map_of_mem (f := ArgField.key) hother
    rw [(h.map_arguments_perm ArgField.key fun _ => rfl).mem_iff, heq] at hmem
    exact hkey hmem
  refine ⟨controller.extended field field.required, ?_⟩
  rw [add_eq, hnoname, hnokey]

/-- One more argument comes to the set that it says it belongs to. -/
theorem add (h : HasAdded decl inherited fields controller) {next : Controller} {field : ArgField}
    (hfresh : field.codecVariable? = none)
    (hadd : controller.add field field.required = .ok next) :
    HasAdded decl inherited (field :: fields) next := by
  have hbuilt := h.built.add hfresh hadd
  obtain ⟨hname, -, rfl⟩ := add_eq_ok hfresh hadd
  obtain ⟨hnorequired, hnooptional⟩ := find?_of_field?_eq_none hname
  have hbare := bare_withCodecVariable controller hfresh
  cases hrequired : field.required with
  | true =>
    simp only [hrequired, if_true] at hbuilt ⊢
    refine ⟨hbuilt, ?_, ?_, h.untouched⟩
    · rw [List.filter_cons_of_pos hrequired, ← hbare]
      exact ((SortedTable.values_insert_perm _ hnorequired).map _).trans (h.required.cons _)
    · rw [List.filter_cons_of_neg (by simp [hrequired])]
      exact h.optional
  | false =>
    simp only [hrequired, Bool.false_eq_true, if_false] at hbuilt ⊢
    refine ⟨hbuilt, ?_, ?_, h.untouched⟩
    · rw [List.filter_cons_of_neg (by simp [hrequired])]
      exact h.required
    · rw [List.filter_cons_of_pos (by simp [hrequired]), ← hbare]
      exact ((SortedTable.values_insert_perm _ hnooptional).map _).trans (h.optional.cons _)

end HasAdded

/-- Arguments with distinct variable names and distinct keys are all added. -/
theorem exists_addAll (decl : ClassDecl) (inherited : Bool) {fields : List ArgField}
    (hfresh : ∀ field ∈ fields, field.codecVariable? = none)
    (hnames : (fields.map ArgField.variableName).Nodup) (hkeys : (fields.map ArgField.key).Nodup) :
    ∃ controller, addAll (ofClass decl inherited) fields = .ok controller ∧
      HasAdded decl inherited fields controller := by
  -- The induction is on the list from its end, as the last argument meets all the others.
  induction fields using List.reverseRecOn with
  | nil => exact ⟨_, rfl, .start decl inherited⟩
  | append_singleton fields field ih =>
    rw [List.map_append, List.map_singleton, List.nodup_append_comm, List.singleton_append,
      List.nodup_cons] at hnames hkeys
    obtain ⟨controller, hall, hadded⟩ :=
      ih (fun other hother => hfresh other (List.mem_append_left _ hother)) hnames.2 hkeys.2
    obtain ⟨next, hadd⟩ := hadded.exists_add hnames.1 hkeys.1
    refine ⟨next, ?_, ?_⟩
    · rw [addAll_concat field fields _ hall, hadd]
    · have hown := hfresh field (List.mem_append_right _ (List.mem_singleton_self field))
      exact (hadded.add hown hadd).of_perm (List.perm_append_singleton field fields).symm

/-! ## One renaming of the codec variables -/

/-- The variables of codecs that are numbered from one upwards. -/
def codecVariables (count : Nat) : List String :=
  (List.range count).map fun n => "bundler" ++ toString (n + 1)

/-- Two controllers have the same arguments and the same codecs, up to one renaming of the codec
variables. -/
structure Corresponds (rename : String → String) (first second : Controller) : Prop where
  /-- The renaming permutes the codec variables. -/
  permutes : ((codecVariables first.codecs.size).map rename).Perm
    (codecVariables first.codecs.size)
  /-- The same codecs are registered, each with its renamed variable. -/
  codecs : (first.codecs.entries.map fun entry => (entry.1, rename entry.2)).Perm
    second.codecs.entries
  required : first.required.entries.map (fun entry => (entry.1, entry.2.renameCodec rename))
    = second.required.entries
  optional : first.optional.entries.map (fun entry => (entry.1, entry.2.renameCodec rename))
    = second.optional.entries

/-- The variable that a codec has in a second table, found by the one that it has in a first table. -/
def codecRenaming (first second : InsertionTable String) (varName : String) : String :=
  match first.entries.find? fun entry => entry.2 == varName with
  | some entry => (second.find? entry.1).getD varName
  | none => varName

theorem Consistent.codecRenaming_eq {first : Controller} (h : Consistent first)
    {second : InsertionTable String} {codec varName other : String}
    (hfirst : first.codecs.find? codec = some varName) (hsecond : second.find? codec = some other) :
    codecRenaming first.codecs second varName = other := by
  rw [codecRenaming, h.find?_codec_variable hfirst]
  dsimp only
  rw [hsecond]
  rfl

/-! ### Tables of arguments -/

section ArgumentTables

variable {first second : SortedTable ArgField}

/-- Arguments that stand under their variable names are determined by their set, up to codec
variables. -/
theorem entries_bare_eq_of_perm
    (hfirst : ∀ name field, first.find? name = some field → field.variableName = name)
    (hsecond : ∀ name field, second.find? name = some field → field.variableName = name)
    (h : (first.values.map ArgField.bare).Perm (second.values.map ArgField.bare)) :
    first.entries.map (fun entry => (entry.1, entry.2.bare))
      = second.entries.map fun entry => (entry.1, entry.2.bare) := by
  have hnamed : ∀ table : SortedTable ArgField,
      (∀ name field, table.find? name = some field → field.variableName = name) →
        table.entries.map (fun entry => (entry.1, entry.2.bare))
          = (table.values.map ArgField.bare).map fun field => (field.variableName, field) := by
    intro table htable
    rw [SortedTable.values, List.map_map, List.map_map]
    apply List.map_congr_left
    rintro ⟨name, field⟩ hentry
    have hname := htable name field ((table.mem_entries_iff name field).1 hentry)
    exact congrArg (·, field.bare) hname.symm
  have hsorted : ∀ table : SortedTable ArgField,
      StrictlySorted (table.entries.map fun entry => (entry.1, entry.2.bare)) := by
    intro table
    rw [StrictlySorted, List.pairwise_map]
    exact table.sorted
  apply (hsorted first).eq_of_perm (hsorted second)
  rw [hnamed first hfirst, hnamed second hsecond]
  exact h.map _

/-- Tables of the same arguments differ by a renaming that leads from the codec variables of one to
those of the other. -/
theorem entries_renamed_eq {rename : String → String} {codecs : InsertionTable String}
    (hbare : first.entries.map (fun entry => (entry.1, entry.2.bare))
      = second.entries.map fun entry => (entry.1, entry.2.bare))
    (hfirst : ∀ field ∈ first.values, field.renameCodec rename = field.bare.fill codecs)
    (hsecond : ∀ field ∈ second.values, field.bare.fill codecs = field) :
    first.entries.map (fun entry => (entry.1, entry.2.renameCodec rename)) = second.entries := by
  have hfill : first.entries.map (fun entry => (entry.1, entry.2.renameCodec rename))
      = (first.entries.map fun entry => (entry.1, entry.2.bare)).map
          fun entry => (entry.1, entry.2.fill codecs) := by
    rw [List.map_map]
    apply List.map_congr_left
    intro entry hentry
    exact congrArg (entry.1, ·) (hfirst entry.2 (List.mem_map_of_mem hentry))
  have hback : (second.entries.map fun entry => (entry.1, entry.2.bare)).map
      (fun entry => (entry.1, entry.2.fill codecs)) = second.entries.map id := by
    rw [List.map_map]
    apply List.map_congr_left
    intro entry hentry
    exact congrArg (entry.1, ·) (hsecond entry.2 (List.mem_map_of_mem hentry))
  rw [hfill, hbare, hback, List.map_id]

end ArgumentTables

/-! ### Whole controllers -/

namespace HasAdded

variable {decl : ClassDecl} {inherited : Bool} {fields : List ArgField}
  {first second : Controller}

/-- The known codecs are those of the arguments that were added. -/
theorem mem_codecs_iff (h : HasAdded decl inherited fields first) (codec : String) :
    codec ∈ first.codecs.keys ↔ some codec ∈ fields.map (·.codec?) := by
  rw [h.built.mem_codecs_iff, ← (h.map_arguments_perm (·.codec?) fun _ => rfl).mem_iff, List.mem_map]
  simp only [mem_fields_iff]

variable (hfirst : HasAdded decl inherited fields first)
  (hsecond : HasAdded decl inherited fields second)

include hfirst hsecond

theorem keys_codecs_perm : first.codecs.keys.Perm second.codecs.keys := by
  apply (List.perm_ext_iff_of_nodup first.codecs.keys_nodup second.codecs.keys_nodup).2
  intro codec
  exact (hfirst.mem_codecs_iff codec).trans (hsecond.mem_codecs_iff codec).symm

/-- A codec that has a variable in one of the controllers has one in the other. -/
theorem exists_variable {codec varName : String} (h : first.codecs.find? codec = some varName) :
    ∃ other, second.codecs.find? codec = some other := by
  have hmem := (hfirst.keys_codecs_perm hsecond).mem_iff.1 (InsertionTable.mem_keys_of_find? h)
  cases hother : second.codecs.find? codec with
  | some other => exact ⟨other, rfl⟩
  | none => exact absurd hmem ((InsertionTable.find?_eq_none_iff _ _).1 hother)

/-- The codec tables have the same entries, up to the renaming. -/
theorem entries_codecs_perm :
    (first.codecs.entries.map fun entry =>
      (entry.1, codecRenaming first.codecs second.codecs entry.2)).Perm second.codecs.entries := by
  have hkeys : (first.codecs.entries.map fun entry =>
      (entry.1, codecRenaming first.codecs second.codecs entry.2)).map Prod.fst
        = first.codecs.keys := by
    rw [List.map_map]
    rfl
  rw [List.perm_ext_iff_of_nodup (.of_map Prod.fst (hkeys ▸ first.codecs.keys_nodup))
    (.of_map Prod.fst second.codecs.keys_nodup)]
  rintro ⟨codec, other⟩
  rw [InsertionTable.mem_entries_iff, List.mem_map]
  constructor
  · rintro ⟨⟨known, varName⟩, hentry, heq⟩
    cases heq
    have hfind := (InsertionTable.mem_entries_iff _ _ _).1 hentry
    obtain ⟨other, hother⟩ := hfirst.exists_variable hsecond hfind
    rw [hfirst.built.consistent.codecRenaming_eq hfind hother, hother]
  · intro hother
    obtain ⟨varName, hfind⟩ := hsecond.exists_variable hfirst hother
    refine ⟨(codec, varName), (InsertionTable.mem_entries_iff _ _ _).2 hfind, ?_⟩
    rw [hfirst.built.consistent.codecRenaming_eq hfind hother]

/-- The renaming gives every argument the variable that its codec has in the other controller. -/
theorem renameCodec_eq {field : ArgField} (hfield : field ∈ first.arguments) :
    field.renameCodec (codecRenaming first.codecs second.codecs)
      = field.bare.fill second.codecs := by
  have hvariable := hfirst.built.consistent.codecVariable?_eq (mem_fields_iff.2 hfield)
  have hrenamed : field.codecVariable?.map (codecRenaming first.codecs second.codecs)
      = field.codec?.bind second.codecs.find? := by
    rw [hvariable]
    cases hcodec : field.codec? with
    | none => rfl
    | some codec =>
      have hmem := (hfirst.built.mem_codecs_iff codec).2 ⟨field, mem_fields_iff.2 hfield, hcodec⟩
      cases hfind : first.codecs.find? codec with
      | none => exact absurd hmem ((InsertionTable.find?_eq_none_iff _ _).1 hfind)
      | some varName =>
        obtain ⟨other, hother⟩ := hfirst.exists_variable hsecond hfind
        rw [Option.bind_some, Option.bind_some, hfind, hother, Option.map_some,
          hfirst.built.consistent.codecRenaming_eq hfind hother]
  rw [ArgField.renameCodec, hrenamed]
  rfl

/-- Controllers to which the same arguments were added correspond. -/
theorem corresponds : Corresponds (codecRenaming first.codecs second.codecs) first second := by
  have hcodecs := hfirst.entries_codecs_perm hsecond
  have hfilled : ∀ field ∈ second.arguments, field.bare.fill second.codecs = field :=
    fun field hfield => hsecond.built.consistent.fill_bare hfield
  refine ⟨?_, hcodecs, ?_, ?_⟩
  · have hvalues : (first.codecs.values.map (codecRenaming first.codecs second.codecs)).Perm
        second.codecs.values := by
      rw [InsertionTable.values, List.map_map]
      have hmapped := hcodecs.map Prod.snd
      rw [List.map_map] at hmapped
      exact hmapped
    have hsize : second.codecs.size = first.codecs.size := by
      have hlength := hcodecs.length_eq
      rw [List.length_map] at hlength
      exact hlength.symm
    have hown : first.codecs.values = codecVariables first.codecs.size :=
      hfirst.built.consistent.codecs_numbered
    have hother : second.codecs.values = codecVariables second.codecs.size :=
      hsecond.built.consistent.codecs_numbered
    rw [hown, hother, hsize] at hvalues
    exact hvalues
  · have hbare := entries_bare_eq_of_perm (fun _ _ => hfirst.built.consistent.required_name)
      (fun _ _ => hsecond.built.consistent.required_name)
      (hfirst.required.trans hsecond.required.symm)
    exact entries_renamed_eq hbare
      (fun _ hfield => hfirst.renameCodec_eq hsecond (List.mem_append_left _ hfield))
      (fun field hfield => hfilled field (List.mem_append_left _ hfield))
  · have hbare := entries_bare_eq_of_perm (fun _ _ => hfirst.built.consistent.optional_name)
      (fun _ _ => hsecond.built.consistent.optional_name)
      (hfirst.optional.trans hsecond.optional.symm)
    exact entries_renamed_eq hbare
      (fun _ hfield => hfirst.renameCodec_eq hsecond (List.mem_append_right _ hfield))
      (fun field hfield => hfilled field (List.mem_append_right _ hfield))

end HasAdded

/-! ### Arguments without codecs -/

namespace HasAdded

variable {decl : ClassDecl} {inherited : Bool} {fields : List ArgField}
  {first second : Controller} (hplain : ∀ field ∈ fields, field.codec? = none)
  (hfirst : HasAdded decl inherited fields first)
  (hsecond : HasAdded decl inherited fields second)

include hplain hfirst

theorem codecs_eq_empty : first.codecs = .empty := by
  have hkeys : first.codecs.keys = [] := by
    rw [List.eq_nil_iff_forall_not_mem]
    intro codec hcodec
    obtain ⟨field, hfield, hown⟩ := List.mem_map.1 ((hfirst.mem_codecs_iff codec).1 hcodec)
    rw [hplain field hfield] at hown
    cases hown
  exact InsertionTable.ext (List.map_eq_nil_iff.1 hkeys)

/-- An argument without a codec has no variable that could be renamed. -/
theorem renameCodec_eq_self (rename : String → String) {field : ArgField}
    (hfield : field ∈ first.arguments) : field.renameCodec rename = field := by
  have hnone : field.codec? = none := by
    have hmem := List.mem_map_of_mem (f := (·.codec?)) hfield
    rw [(hfirst.map_arguments_perm (·.codec?) fun _ => rfl).mem_iff] at hmem
    obtain ⟨added, hadded, heq⟩ := List.mem_map.1 hmem
    rw [← heq]
    exact hplain added hadded
  have hvariable := hfirst.built.consistent.codecVariable?_eq (mem_fields_iff.2 hfield)
  rw [hnone, Option.bind_none] at hvariable
  rw [ArgField.renameCodec, hvariable, Option.map_none, ← hvariable]

include hsecond

/-- If no argument has a codec, only the order of the keys shows the order of the additions. -/
theorem eq_withKeys : second = { first with keys := second.keys } := by
  have hcorresponds := hfirst.corresponds hsecond
  have hsame : ∀ table : SortedTable ArgField, (∀ field ∈ table.values, field ∈ first.arguments) →
      table.entries.map (fun entry => (entry.1, entry.2.renameCodec
        (codecRenaming first.codecs second.codecs))) = table.entries := by
    intro table htable
    conv_rhs => rw [← List.map_id table.entries]
    apply List.map_congr_left
    intro entry hentry
    have hmem := htable entry.2 (List.mem_map_of_mem hentry)
    exact congrArg (entry.1, ·) (hfirst.renameCodec_eq_self hplain _ hmem)
  have hrequired : second.required = first.required := by
    apply SortedTable.ext
    rw [← hcorresponds.required]
    exact hsame _ fun _ hfield => List.mem_append_left _ hfield
  have hoptional : second.optional = first.optional := by
    apply SortedTable.ext
    rw [← hcorresponds.optional]
    exact hsame _ fun _ hfield => List.mem_append_right _ hfield
  have hcodecs : second.codecs = first.codecs := by
    rw [hsecond.codecs_eq_empty hplain, hfirst.codecs_eq_empty hplain]
  have huntouched := hsecond.untouched.trans hfirst.untouched.symm
  obtain ⟨⟩ := first
  obtain ⟨⟩ := second
  simp only [Controller.mk.injEq] at huntouched ⊢
  simp only at hrequired hoptional hcodecs
  simp only [huntouched, hrequired, hoptional, hcodecs, and_self]

end HasAdded

end Controller

end BundleBuilder
