import BundleBuilder.Proofs.Controller.Ancestry
import BundleBuilder.Proofs.Controller.Consistency
import BundleBuilder.Proofs.Controller.Reporting

/-!
# Which fields become arguments

A collection walks over the marked fields of its levels, the nearest level first. What it finds is
described without its tables: a marked field is kept unless it is misplaced or has the variable name
or the key of a field kept before, and every field that is not kept gives one error about itself. One
step of the scan keeps the collection and this selection together (`Tracks`), and so do the scans over
fields and levels.
-/

set_option autoImplicit false

namespace BundleBuilder.Controller

/-! ## The selection -/

/-- A field with the marker of an argument, at the level that declares it. -/
structure MarkedField where
  level : Level
  decl : FieldDecl
  marker : Annotation

namespace MarkedField

/-- The name by which diagnostics refer to the field. -/
def element (field : MarkedField) : String :=
  FieldSite.element ⟨field.decl.name, field.level.decl.name⟩

/-- The name of the variable for the field. -/
def variableName (field : MarkedField) : String := unmarkedName field.decl.name

/-- The key under which the field would be stored. -/
def key (field : MarkedField) : String := keyOf field.decl field.marker

/-- A field that belongs to the class or cannot be assigned is misplaced. -/
def IsMisplaced (field : MarkedField) : Prop :=
  .static ∈ field.decl.modifiers ∨ .final ∈ field.decl.modifiers

instance (field : MarkedField) : Decidable field.IsMisplaced :=
  inferInstanceAs (Decidable (_ ∨ _))

/-- The argument that the field declares. -/
def argument (table : ClassTable) (platform : Platform) (bounds : TypeBounds)
    (field : MarkedField) : Except ProcessingError ArgField :=
  argumentOf table platform bounds field.level field.decl field.marker

end MarkedField

/-- A field of a level with its marker, if it has one. -/
def markedField? (platform : Platform) (level : Level) (decl : FieldDecl) : Option MarkedField :=
  (decl.marker? platform.argMarker).map fun marker => ⟨level, decl, marker⟩

/-- The marked fields of levels: level after level, and in the order of declaration. -/
def markedFields (platform : Platform) (levels : List Level) : List MarkedField :=
  levels.flatMap fun level => level.decl.fields.filterMap (markedField? platform level)

/-- The marked fields that were kept and those that were dropped, both in their order. -/
structure Selection where
  kept : List MarkedField := []
  dropped : List MarkedField := []

namespace Selection

/-- A field clashes with the fields kept so far if one of them has its variable name or its key. -/
def Clashes (selection : Selection) (field : MarkedField) : Prop :=
  field.variableName ∈ selection.kept.map MarkedField.variableName ∨
    field.key ∈ selection.kept.map MarkedField.key

instance (selection : Selection) (field : MarkedField) : Decidable (selection.Clashes field) :=
  inferInstanceAs (Decidable (_ ∨ _))

/-- Keeps a field unless it is misplaced or clashes. -/
def take (selection : Selection) (field : MarkedField) : Selection :=
  if field.IsMisplaced ∨ selection.Clashes field then
    { selection with dropped := selection.dropped ++ [field] }
  else { selection with kept := selection.kept ++ [field] }

/-- The number of fields that were looked at. -/
def size (selection : Selection) : Nat := selection.kept.length + selection.dropped.length

theorem size_take (selection : Selection) (field : MarkedField) :
    (selection.take field).size = selection.size + 1 := by
  simp only [take, size]
  split
  · dsimp only
    rw [List.length_append, List.length_singleton]
    omega
  · dsimp only
    rw [List.length_append, List.length_singleton]
    omega

theorem size_foldl_take (marked : List MarkedField) : ∀ selection : Selection,
    (marked.foldl take selection).size = selection.size + marked.length := by
  induction marked with
  | nil => exact fun _ => rfl
  | cons field marked ih =>
    intro selection
    rw [List.foldl_cons, ih, size_take, List.length_cons]
    omega

end Selection

/-- The selection from marked fields, taken one after the other. -/
def select (marked : List MarkedField) : Selection := marked.foldl Selection.take {}

/-- Every marked field is either kept or dropped. -/
theorem size_select (marked : List MarkedField) : (select marked).size = marked.length := by
  rw [select]
  rw [Selection.size_foldl_take]
  exact Nat.zero_add _

/-! ## What a collection does with a marked field -/

/-- An argument before a codec variable and a setter were given to it. -/
def unresolved (field : ArgField) : ArgField :=
  { field with codecVariable? := none, setter? := none }

theorem unresolved_withCodecVariable {field : ArgField} (controller : Controller)
    (hcodec : field.codecVariable? = none) (hsetter : field.setter? = none) :
    unresolved (controller.withCodecVariable field) = field := by
  cases field
  simp only at hcodec hsetter
  subst hcodec hsetter
  rfl

theorem argumentOf_eq_ok {table : ClassTable} {platform : Platform} {bounds : TypeBounds}
    {marked : MarkedField} {field : ArgField}
    (h : marked.argument table platform bounds = .ok field) :
    field.variableName = marked.variableName ∧ field.key = marked.key ∧
      field.element = marked.element ∧ field.codecVariable? = none ∧ field.setter? = none := by
  unfold MarkedField.argument argumentOf at h
  dsimp only at h
  split at h
  · cases h
  · split at h
    · cases h
    · rw [← Except.ok.inj h]
      exact ⟨rfl, rfl, rfl, rfl, rfl⟩

/-- The entries that are errors. -/
def errorsAmong (entries : List Diagnostic) : List Diagnostic :=
  entries.filter fun entry => decide (entry.severity = .error)

/-- A collection has found what a selection kept, and its errors are about what was dropped. -/
structure Tracks (table : ClassTable) (platform : Platform) (decl : ClassDecl) (inherited : Bool)
    (diagnostics : Diagnostics) (collection : Collection) (selection : Selection) : Prop where
  built : Built decl inherited collection.controller
  arguments :
    ∃ arguments : List ArgField,
      selection.kept.map (MarkedField.argument table platform (ofClass decl inherited).typeBounds)
        = arguments.map Except.ok ∧
      (collection.controller.arguments.map unresolved).Perm arguments
  entries :
    ∃ added, collection.diagnostics.entries = diagnostics.entries ++ added ∧
      (errorsAmong added).map (·.element?) = selection.dropped.map fun field => some field.element

/-- What does not depend on the tables of a controller is what it was at the start. -/
theorem Built.view_eq {α : Type} {decl : ClassDecl} {inherited : Bool} {controller : Controller}
    (h : Built decl inherited controller) (view : Controller → α)
    (hview : ∀ controller required optional keys codecs setters, view { controller with
      required := required, optional := optional, keys := keys, codecs := codecs,
      setters := setters } = view controller) :
    view controller = view (ofClass decl inherited) := by
  induction h with
  | start => rfl
  | @add controller next field required _ hfresh hadd ih =>
    obtain ⟨-, -, rfl⟩ := add_eq_ok hfresh hadd
    rw [← ih]
    exact hview controller _ _ _ _ _
  | @registerSetter controller candidate _ ih =>
    obtain ⟨setters, heq⟩ := registerSetter_eq controller candidate
    rw [heq, ← ih]
    exact hview controller _ _ _ _ _
  | @assignSetter controller varName setter _ ih =>
    rcases assignSetter_cases controller varName setter with
      ⟨field, -, heq⟩ | ⟨-, field, -, heq⟩ | ⟨-, heq⟩
    · rw [heq, ← ih]
      exact hview controller _ _ _ _ _
    · rw [heq, ← ih]
      exact hview controller _ _ _ _ _
    · rw [heq]
      exact ih

/-- The type parameters of a controller are those of its class. -/
theorem Built.typeBounds_eq {decl : ClassDecl} {inherited : Bool} {controller : Controller}
    (h : Built decl inherited controller) :
    controller.typeBounds = (ofClass decl inherited).typeBounds :=
  h.view_eq typeBounds fun _ _ _ _ _ _ => rfl

/-- The package of a controller is that of its class. -/
theorem Built.package_eq {decl : ClassDecl} {inherited : Bool} {controller : Controller}
    (h : Built decl inherited controller) : controller.package = decl.package :=
  h.view_eq package fun _ _ _ _ _ _ => rfl

/-- What marked fields and their arguments share is the same over the lists of both. -/
theorem map_eq_of_arguments {α : Type} {table : ClassTable} {platform : Platform}
    {bounds : TypeBounds} {ofArgument : ArgField → α} {ofMarked : MarkedField → α}
    (hview : ∀ {marked field},
      marked.argument table platform bounds = .ok field → ofArgument field = ofMarked marked) :
    ∀ {kept : List MarkedField} {arguments : List ArgField},
      kept.map (MarkedField.argument table platform bounds) = arguments.map Except.ok →
      arguments.map ofArgument = kept.map ofMarked := by
  intro kept
  induction kept with
  | nil =>
    intro arguments h
    rw [List.map_nil] at h
    rw [List.map_eq_nil_iff.1 h.symm]
    rfl
  | cons marked kept ih =>
    intro arguments h
    cases arguments with
    | nil => cases h
    | cons field arguments =>
      obtain ⟨hhead, htail⟩ := List.cons.inj h
      rw [List.map_cons, List.map_cons, hview hhead, ih htail]

section Step

variable {table : ClassTable} {platform : Platform} {decl : ClassDecl} {inherited : Bool}
  {diagnostics : Diagnostics} {collection : Collection} {selection : Selection}

/-- Seen by something that a marked field and its argument share, the arguments of a collection are
what was kept. -/
theorem Tracks.map_arguments {α : Type}
    (h : Tracks table platform decl inherited diagnostics collection selection)
    (ofArgument : ArgField → α) (ofMarked : MarkedField → α)
    (hunresolved : ∀ field, ofArgument (unresolved field) = ofArgument field)
    (hview : ∀ {bounds marked field},
      marked.argument table platform bounds = .ok field → ofArgument field = ofMarked marked) :
    (collection.controller.arguments.map ofArgument).Perm (selection.kept.map ofMarked) := by
  obtain ⟨arguments, hkept, hperm⟩ := h.arguments
  have hmap := hperm.map ofArgument
  have hfun : ofArgument ∘ unresolved = ofArgument := funext hunresolved
  rw [List.map_map, hfun, map_eq_of_arguments hview hkept] at hmap
  exact hmap

/-- The tables of the controller know a name or a key exactly if a kept field has it. -/
theorem Tracks.clashes_iff
    (h : Tracks table platform decl inherited diagnostics collection selection)
    (marked : MarkedField) :
    selection.Clashes marked ↔
      (∃ existing, collection.controller.field? marked.variableName = some existing) ∨
        ∃ existing, collection.controller.fieldOfKey? marked.key = some existing := by
  have hconsistent := h.built.consistent
  have hnames := h.map_arguments ArgField.variableName MarkedField.variableName (fun _ => rfl)
    fun hargument => (argumentOf_eq_ok hargument).1
  have hkeys := h.map_arguments ArgField.key MarkedField.key (fun _ => rfl)
    fun hargument => (argumentOf_eq_ok hargument).2.1
  have hname : marked.variableName ∈ selection.kept.map MarkedField.variableName ↔
      ∃ existing, collection.controller.field? marked.variableName = some existing := by
    rw [← hnames.mem_iff, List.mem_map, ← Option.isSome_iff_exists, ← Option.ne_none_iff_isSome,
      Ne, hconsistent.field?_eq_none_iff]
    simp
  have hkey : marked.key ∈ selection.kept.map MarkedField.key ↔
      ∃ existing, collection.controller.fieldOfKey? marked.key = some existing := by
    rw [← hkeys.mem_iff, List.mem_map, ← Option.isSome_iff_exists, ← Option.ne_none_iff_isSome,
      Ne, hconsistent.fieldOfKey?_eq_none_iff]
    simp
  rw [Selection.Clashes]
  rw [hname, hkey]

/-- An error about a marked field that is dropped. -/
theorem Tracks.report
    (h : Tracks table platform decl inherited diagnostics collection selection)
    {marked : MarkedField} {error : ProcessingError} (helement : error.element = marked.element)
    (hdropped : marked.IsMisplaced ∨ selection.Clashes marked) :
    Tracks table platform decl inherited diagnostics (collection.report error)
      (selection.take marked) := by
  have htake : selection.take marked
      = { selection with dropped := selection.dropped ++ [marked] } := if_pos hdropped
  obtain ⟨added, hentries, herrors⟩ := h.entries
  rw [htake]
  refine ⟨h.built, h.arguments, added ++ [error.entry], ?_, ?_⟩
  · show (collection.diagnostics.report error).entries = _
    rw [Diagnostics.entries_report, hentries, List.append_assoc]
  · rw [errorsAmong] at herrors ⊢
    rw [List.filter_append, List.map_append, herrors, List.map_append]
    simp only [ProcessingError.entry, List.filter_cons, decide_true, if_true, List.filter_nil,
      List.map_cons, List.map_nil, helement]

/-- A warning is no error, so it leaves everything as it is. -/
theorem Tracks.warnSerializable
    (h : Tracks table platform decl inherited diagnostics collection selection)
    (field : ArgField) :
    Tracks table platform decl inherited diagnostics (collection.warnSerializable field)
      selection := by
  obtain ⟨added, hentries, herrors⟩ := h.entries
  rw [Collection.warnSerializable]
  split
  · refine ⟨h.built, h.arguments, ?_⟩
    refine ⟨added ++ if collection.diagnostics.warningsEnabled
      then [⟨.warning, field.simpleClassName ++ "." ++ field.name ++
        " will be stored as Serializable", some field.element⟩] else [], ?_, ?_⟩
    · dsimp only
      rw [Diagnostics.entries_warning, hentries, List.append_assoc]
    · rw [← herrors]
      simp only [errorsAmong]
      rw [List.filter_append]
      split <;> simp
  · exact h

/-- An argument that is entered is kept, or it clashes and is dropped. -/
theorem Tracks.enter
    (h : Tracks table platform decl inherited diagnostics collection selection)
    {marked : MarkedField} {field : ArgField} (hplaced : ¬ marked.IsMisplaced)
    (hargument :
      marked.argument table platform (ofClass decl inherited).typeBounds = .ok field) :
    Tracks table platform decl inherited diagnostics (collection.enter field)
      (selection.take marked) := by
  obtain ⟨hname, hkey, helement, hcodec, hsetter⟩ := argumentOf_eq_ok hargument
  have hclash := h.clashes_iff marked
  rw [← hname, ← hkey] at hclash
  rw [Collection.enter]
  cases hadd : collection.controller.add field field.required with
  | error error =>
    -- What is refused clashes with something that was kept.
    obtain ⟨htaken, hsite⟩ := add_eq_error hadd
    rw [offer_of_add_eq_error hadd]
    exact h.report (hsite.trans helement) (.inr (hclash.2 htaken))
  | ok next =>
    obtain ⟨hnoname, hnokey, -⟩ := add_eq_ok hcodec hadd
    have hnew : ¬ selection.Clashes marked := by
      rw [hclash, hnoname, hnokey]
      rintro (⟨existing, hexisting⟩ | ⟨existing, hexisting⟩)
      · cases hexisting
      · cases hexisting
    have htake : selection.take marked = { selection with kept := selection.kept ++ [marked] } :=
      if_neg fun hdropped => hdropped.elim hplaced hnew
    obtain ⟨arguments, hkept, hperm⟩ := h.arguments
    rw [htake, offer_of_add_eq_ok hadd]
    refine ⟨h.built.add hcodec hadd, ⟨arguments ++ [field], ?_, ?_⟩, h.entries⟩
    · rw [List.map_append, List.map_append, hkept, List.map_singleton, List.map_singleton,
        hargument]
    · have hadded := (arguments_add hcodec hadd).map unresolved
      rw [List.map_cons, unresolved_withCodecVariable _ hcodec hsetter] at hadded
      refine hadded.trans ((hperm.cons field).trans ?_)
      exact (List.perm_append_singleton field arguments).symm

/-! ## Scans -/

theorem Tracks.scanField {next : Collection} {level : Level} {fieldDecl : FieldDecl}
    (h : Tracks table platform decl inherited diagnostics collection selection)
    (hscan : scanField table platform level collection fieldDecl = .ok next) :
    Tracks table platform decl inherited diagnostics next
      ((markedField? platform level fieldDecl).toList.foldl Selection.take selection) := by
  rw [Controller.scanField] at hscan
  rw [markedField?]
  cases hmarker : fieldDecl.marker? platform.argMarker with
  | none =>
    rw [hmarker] at hscan
    rw [← Except.ok.inj hscan]
    exact h
  | some marker =>
    rw [hmarker] at hscan
    simp only [Option.map_some, Option.toList_some, List.foldl_cons, List.foldl_nil]
    by_cases hplaced : MarkedField.IsMisplaced ⟨level, fieldDecl, marker⟩
    · have hmodifiers : .static ∈ fieldDecl.modifiers ∨ .final ∈ fieldDecl.modifiers := hplaced
      simp only [hmodifiers, if_true] at hscan
      rw [← Except.ok.inj hscan]
      exact h.report rfl (.inl hplaced)
    · have hmodifiers : ¬ (.static ∈ fieldDecl.modifiers ∨ .final ∈ fieldDecl.modifiers) := hplaced
      simp only [hmodifiers, if_false, h.built.typeBounds_eq] at hscan
      cases hargument : argumentOf table platform (ofClass decl inherited).typeBounds level
          fieldDecl marker with
      | error error =>
        rw [hargument] at hscan
        cases hscan
      | ok field =>
        rw [hargument] at hscan
        rw [← Except.ok.inj hscan]
        exact (h.warnSerializable field).enter hplaced hargument

end Step

section Run

variable {table : ClassTable} {platform : Platform} {decl : ClassDecl} {inherited : Bool}
  {diagnostics : Diagnostics}

theorem Tracks.scanFields {level : Level} {next : Collection} {fieldDecls : List FieldDecl} :
    ∀ {collection : Collection} {selection : Selection},
    Tracks table platform decl inherited diagnostics collection selection →
    scanFields table platform level collection fieldDecls = .ok next →
    Tracks table platform decl inherited diagnostics next
      ((fieldDecls.filterMap (markedField? platform level)).foldl Selection.take selection) := by
  induction fieldDecls with
  | nil =>
    intro collection selection h hscan
    rw [← Except.ok.inj hscan]
    exact h
  | cons fieldDecl fieldDecls ih =>
    intro collection selection h hscan
    rw [Controller.scanFields] at hscan
    cases hstep : Controller.scanField table platform level collection fieldDecl with
    | error failure =>
      rw [hstep] at hscan
      cases hscan
    | ok middle =>
      rw [hstep] at hscan
      have hmiddle := h.scanField hstep
      cases hmarked : markedField? platform level fieldDecl with
      | none =>
        rw [hmarked] at hmiddle
        rw [List.filterMap_cons_none hmarked]
        exact ih hmiddle hscan
      | some marked =>
        rw [hmarked] at hmiddle
        rw [List.filterMap_cons_some hmarked, List.foldl_cons]
        exact ih hmiddle hscan

/-- Remembering setters does not change what was found. -/
theorem Tracks.scanSetters {collection : Collection} {selection : Selection}
    (h : Tracks table platform decl inherited diagnostics collection selection) (level : Level) :
    Tracks table platform decl inherited diagnostics
      { collection with controller := collection.controller.scanSetters level } selection := by
  rw [Controller.scanSetters]
  generalize level.decl.methods.filterMap (candidateOf? level) = candidates
  obtain ⟨controller, own⟩ := collection
  induction candidates generalizing controller with
  | nil => exact h
  | cons candidate candidates ih =>
    rw [List.foldl_cons]
    refine ih (controller.registerSetter candidate) ⟨?_, ?_, h.entries⟩
    · exact h.built.registerSetter candidate
    · obtain ⟨setters, heq⟩ := registerSetter_eq controller candidate
      dsimp only
      rw [heq]
      exact h.arguments

theorem Tracks.scanLevels {next : Collection} {levels : List Level} :
    ∀ {collection : Collection} {selection : Selection},
    Tracks table platform decl inherited diagnostics collection selection →
    scanLevels table platform collection levels = .ok next →
    Tracks table platform decl inherited diagnostics next
      ((markedFields platform levels).foldl Selection.take selection) := by
  induction levels with
  | nil =>
    intro collection selection h hscan
    rw [← Except.ok.inj hscan]
    exact h
  | cons level levels ih =>
    intro collection selection h hscan
    rw [Controller.scanLevels] at hscan
    cases hfields : Controller.scanFields table platform level collection level.decl.fields with
    | error failure =>
      rw [hfields] at hscan
      cases hscan
    | ok middle =>
      rw [hfields] at hscan
      rw [markedFields]
      rw [List.flatMap_cons, List.foldl_append]
      exact ih ((h.scanFields hfields).scanSetters level) hscan

/-- Giving setters to arguments does not change which arguments there are. -/
theorem Tracks.finish {collection next : Collection} {selection : Selection}
    (h : Tracks table platform decl inherited diagnostics collection selection)
    (hfinish : collection.finish = .ok next) :
    Tracks table platform decl inherited diagnostics next selection := by
  rw [Collection.finish, resolveSetters] at hfinish
  obtain ⟨controller, own⟩ := collection
  dsimp only at hfinish
  cases hassign : controller.setterAssignments controller.fields with
  | error error =>
    rw [hassign] at hfinish
    cases hfinish
  | ok assignments =>
    rw [hassign] at hfinish
    rw [← Except.ok.inj hfinish]
    -- The induction is on the assignments, none of which changes an argument but its setter.
    clear hassign hfinish
    induction assignments generalizing controller with
    | nil => exact h
    | cons assignment assignments ih =>
      rw [List.foldl_cons]
      refine ih (controller.assignSetter assignment.1 assignment.2) ⟨?_, ?_, h.entries⟩
      · exact h.built.assignSetter assignment.1 assignment.2
      · dsimp only
        rw [arguments_assignSetter controller _ _ unresolved fun _ => rfl]
        exact h.arguments

end Run

/-- A collection starts with nothing found and at most a warning. -/
theorem Tracks.start (table : ClassTable) (platform : Platform) (decl : ClassDecl)
    (diagnostics : Diagnostics) :
    Tracks table platform decl (scanInherited platform decl diagnostics).1 diagnostics
      ⟨ofClass decl (scanInherited platform decl diagnostics).1,
        (scanInherited platform decl diagnostics).2⟩ {} := by
  refine ⟨.start, ⟨[], rfl, .nil⟩, ?_⟩
  rw [scanInherited]
  cases decl.marker? platform.controllerMarker with
  | some marker => exact ⟨[], (List.append_nil _).symm, rfl⟩
  | none =>
    cases decl.marker? platform.inheritedMarker with
    | none => exact ⟨[], (List.append_nil _).symm, rfl⟩
    | some marker =>
      dsimp only
      rw [Diagnostics.entries_warning]
      refine ⟨_, rfl, ?_⟩
      split <;> rfl

/-- A collection that succeeds has found what the selection keeps, and it has reported what the
selection drops. -/
theorem tracks_of_collect {table : ClassTable} {platform : Platform} {decl : ClassDecl}
    {diagnostics : Diagnostics} {collection : Collection}
    (h : collect table platform decl diagnostics = .ok collection) :
    Tracks table platform decl (scanInherited platform decl diagnostics).1 diagnostics collection
      (select (markedFields platform (Level.ofController table platform decl
        (scanInherited platform decl diagnostics).1))) := by
  have hstart := Tracks.start table platform decl diagnostics
  unfold collect at h
  dsimp only at h
  cases hscan : scanLevels table platform
      ⟨ofClass decl (scanInherited platform decl diagnostics).1,
        (scanInherited platform decl diagnostics).2⟩
      (Level.ofController table platform decl (scanInherited platform decl diagnostics).1) with
  | error failure =>
    rw [hscan] at h
    cases h
  | ok scanned =>
    rw [hscan] at h
    exact (hstart.scanLevels hscan).finish h

section Results

variable {table : ClassTable} {platform : Platform} {decl : ClassDecl} {inherited : Bool}
  {diagnostics : Diagnostics} {collection : Collection} {selection : Selection}

/-- The fields of the controller are the arguments that the kept fields declare. -/
theorem Tracks.fields
    (h : Tracks table platform decl inherited diagnostics collection selection) :
    ∃ arguments : List ArgField,
      selection.kept.map (MarkedField.argument table platform (ofClass decl inherited).typeBounds)
        = arguments.map Except.ok ∧
      (collection.controller.fields.map unresolved).Perm arguments := by
  obtain ⟨arguments, hkept, hperm⟩ := h.arguments
  exact ⟨arguments, hkept,
    ((fields_perm_arguments collection.controller).map unresolved).trans hperm⟩

theorem Tracks.fieldCount_eq
    (h : Tracks table platform decl inherited diagnostics collection selection) :
    collection.controller.fieldCount = selection.kept.length := by
  obtain ⟨arguments, hkept, hperm⟩ := h.arguments
  have hlength := hperm.length_eq
  have hsame := congrArg List.length hkept
  rw [List.length_map, List.length_map] at hsame
  rw [List.length_map] at hlength
  rw [fieldCount_eq_length, hlength, hsame]

end Results

/-- A check of what a computation gives shows that it gives something. -/
theorem exists_ok_of_any {ε α : Type} {result : Except ε α} {view : α → Bool}
    (h : result.toOption.any view = true) : ∃ value, result = .ok value ∧ view value = true := by
  cases result with
  | error error => cases h
  | ok value => exact ⟨value, rfl, h⟩

/-- A collection of which a scan of its levels shows that no argument needs a setter. -/
theorem exists_collect_of_scan {table : ClassTable} {platform : Platform} {decl : ClassDecl}
    (diagnostics : Diagnostics) {levels : List Level}
    (hlevels : Level.ofController table platform decl (scanInherited platform decl diagnostics).1
      = levels) (view : Collection → Bool)
    (hscan : (scanLevels table platform
        ⟨ofClass decl (scanInherited platform decl diagnostics).1,
          (scanInherited platform decl diagnostics).2⟩ levels).toOption.any (fun scanned =>
        scanned.controller.arguments.all (fun field => !scanned.controller.needsSetter field) &&
          view scanned) = true) :
    ∃ collection, collect table platform decl diagnostics = .ok collection ∧
      view collection = true := by
  obtain ⟨scanned, hscanned, hboth⟩ := exists_ok_of_any hscan
  obtain ⟨hdirect, hview⟩ := Bool.and_eq_true_iff.1 hboth
  have hneeds : ∀ field ∈ scanned.controller.arguments,
      scanned.controller.needsSetter field = false := by
    simpa using hdirect
  refine ⟨scanned, ?_, hview⟩
  rw [collect, hlevels, hscanned]
  dsimp only
  rw [Collection.finish, resolveSetters_of_direct hneeds]

/-- An integer field with the marker of an argument. -/
def markedInt (name : String) (modifiers : List Modifier) : FieldDecl where
  name := name
  type := .primitive .int
  modifiers := modifiers
  annotations := [⟨"Arg", .empty⟩]

end BundleBuilder.Controller
