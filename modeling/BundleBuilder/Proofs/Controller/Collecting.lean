import BundleBuilder.Proofs.Controller.SetterTable
import BundleBuilder.Proofs.Storage.Classification

/-!
# Collections that come to an end

The levels of a controller are finitely many, and so are their fields. What may come to no end in a
collection are the questions of assignability that the storage of an argument is found by. A
collection is therefore followed to a depth, as these questions are: `collectWithin` has an outcome
where the depth is enough for every field that is come to, and that is then the outcome of the
collection (`collect_of_within`). It has one for every depth at which the storage of the types of all
marked fields is found (`finds_collectWithin`), so over bounds of which those that are type variables
form no cycle. Some condition is necessary: a type variable that is one of its own bounds is compared
with a type for ever (`collection_unanswered`).
-/

set_option autoImplicit false

namespace BundleBuilder.Controller

open Relation

/-! ## Collections followed to a depth -/

/-- How an argument is stored, with the rules of assignability followed to the given depth only. -/
def storageWithin (table : ClassTable) (platform : Platform) (bounds : TypeBounds) (depth : Nat)
    (level : Level) (decl : FieldDecl) (codec? : Option String) :
    Option (Except ProcessingError (Option Storage)) :=
  match codec? with
  | some _ => some (.ok none)
  | none =>
    match Storage.ofTypeWithin table platform bounds depth
        (decl.type.substitute level.bindings) with
    | some (some storage) => some (.ok (some storage))
    | some none => some (.error (unsupported level decl))
    | none => none

/-- The argument that a marked field of a level declares, with the rules followed to the given
depth. -/
def argumentWithin (table : ClassTable) (platform : Platform) (bounds : TypeBounds) (depth : Nat)
    (level : Level) (decl : FieldDecl) (marker : Annotation) :
    Option (Except ProcessingError ArgField) :=
  let site : FieldSite := ⟨decl.name, level.decl.name⟩
  match Codec.ofMarker table platform marker level.decl.package site.element with
  | .error error => some (.error error)
  | .ok codec? =>
    match storageWithin table platform bounds depth level decl codec? with
    | some (.error error) => some (.error error)
    | some (.ok storage?) => some (.ok (argumentFrom level decl marker codec? storage?))
    | none => none

/-- Scans a field of a level, with the rules followed to the given depth. -/
def scanFieldWithin (table : ClassTable) (platform : Platform) (depth : Nat) (level : Level)
    (collection : Collection) (decl : FieldDecl) : Option (Except Failure Collection) :=
  match decl.marker? platform.argMarker with
  | none => some (.ok collection)
  | some marker =>
    if .static ∈ decl.modifiers ∨ .final ∈ decl.modifiers then
      some (.ok (collection.report (misplaced level decl)))
    else
      match argumentWithin table platform collection.controller.typeBounds depth level decl
          marker with
      | some (.error error) => some (.error ⟨error, collection.diagnostics⟩)
      | some (.ok field) => some (.ok (collection.record field))
      | none => none

/-- Scans fields of a level one after the other, with the rules followed to the given depth. -/
def scanFieldsWithin (table : ClassTable) (platform : Platform) (depth : Nat) (level : Level)
    (collection : Collection) : List FieldDecl → Option (Except Failure Collection)
  | [] => some (.ok collection)
  | decl :: decls =>
    match scanFieldWithin table platform depth level collection decl with
    | some (.error failure) => some (.error failure)
    | some (.ok collection) => scanFieldsWithin table platform depth level collection decls
    | none => none

/-- Scans levels one after the other, with the rules followed to the given depth. -/
def scanLevelsWithin (table : ClassTable) (platform : Platform) (depth : Nat)
    (collection : Collection) : List Level → Option (Except Failure Collection)
  | [] => some (.ok collection)
  | level :: levels =>
    match scanFieldsWithin table platform depth level collection level.decl.fields with
    | some (.error failure) => some (.error failure)
    | some (.ok collection) =>
      scanLevelsWithin table platform depth
        { collection with controller := collection.controller.scanSetters level } levels
    | none => none

/-- Collects the arguments of a controller class, with the rules followed to the given depth. -/
def collectWithin (table : ClassTable) (platform : Platform) (depth : Nat) (decl : ClassDecl)
    (diagnostics : Diagnostics) : Option (Except Failure Collection) :=
  let start := scanInherited platform decl diagnostics
  match scanLevelsWithin table platform depth ⟨ofClass decl start.1, start.2⟩
      (Level.ofController table platform decl start.1) with
  | some (.error failure) => some (.error failure)
  | some (.ok collection) => some collection.finish
  | none => none

/-! ## What is found is the outcome -/

/-- A search has found the outcome, or it has found nothing, for the given reason. -/
def Finds {α : Type} (found? : Option α) (outcome : α) (reason : Prop) : Prop :=
  found? = some outcome ∨ found? = none ∧ reason

theorem Finds.mono {α : Type} {found? : Option α} {outcome : α} {reason weaker : Prop}
    (h : Finds found? outcome reason) (hreason : reason → weaker) : Finds found? outcome weaker :=
  Or.imp_right (And.imp_right hreason) h

/-- The type of a marked field, as the controller sees it. -/
def MarkedField.type (field : MarkedField) : JavaType :=
  field.decl.type.substitute field.level.bindings

/-- The storage of the type of some marked field is not found at the given depth. -/
def Unanswered (table : ClassTable) (platform : Platform) (bounds : TypeBounds) (depth : Nat)
    (marked : List MarkedField) : Prop :=
  ∃ field ∈ marked, Storage.ofTypeWithin table platform bounds depth field.type = none

theorem Unanswered.mono {table : ClassTable} {platform : Platform} {bounds : TypeBounds}
    {depth : Nat} {marked more : List MarkedField}
    (h : Unanswered table platform bounds depth marked) (hsubset : marked ⊆ more) :
    Unanswered table platform bounds depth more := by
  obtain ⟨field, hmem, hnone⟩ := h
  exact ⟨field, hsubset hmem, hnone⟩

section Argument

variable (table : ClassTable) (platform : Platform) (bounds : TypeBounds) (depth : Nat)
  (marked : MarkedField)

theorem finds_storageWithin (codec? : Option String) :
    Finds (storageWithin table platform bounds depth marked.level marked.decl codec?)
      (storageOf table platform bounds marked.level marked.decl codec?)
      (Storage.ofTypeWithin table platform bounds depth marked.type = none) := by
  unfold storageWithin storageOf
  cases codec? with
  | some codec => exact .inl rfl
  | none =>
    dsimp only
    rw [MarkedField.type]
    cases hfound : Storage.ofTypeWithin table platform bounds depth
        (marked.decl.type.substitute marked.level.bindings) with
    | none => exact .inr ⟨rfl, rfl⟩
    | some storage? =>
      rw [Storage.ofType?_of_within hfound]
      cases storage? <;> exact .inl rfl

theorem finds_argumentWithin :
    Finds (argumentWithin table platform bounds depth marked.level marked.decl marked.marker)
      (marked.argument table platform bounds)
      (Storage.ofTypeWithin table platform bounds depth marked.type = none) := by
  rw [argumentWithin, MarkedField.argument, argumentOf]
  cases Codec.ofMarker table platform marked.marker marked.level.decl.package
      (FieldSite.element ⟨marked.decl.name, marked.level.decl.name⟩) with
  | error error => exact .inl rfl
  | ok codec? =>
    dsimp only
    rcases finds_storageWithin table platform bounds depth marked codec? with hfound | ⟨hnone, hreason⟩
    · rw [hfound]
      cases storageOf table platform bounds marked.level marked.decl codec? <;> exact .inl rfl
    · rw [hnone]
      exact .inr ⟨rfl, hreason⟩

end Argument

section Step

variable {table : ClassTable} {platform : Platform} {decl : ClassDecl} {inherited : Bool}
  {diagnostics : Diagnostics} {collection : Collection} {selection : Selection} (depth : Nat)

theorem finds_scanFieldWithin
    (h : Tracks table platform decl inherited diagnostics collection selection)
    (level : Level) (fieldDecl : FieldDecl) :
    Finds (scanFieldWithin table platform depth level collection fieldDecl)
      (scanField table platform level collection fieldDecl)
      (Unanswered table platform (ofClass decl inherited).typeBounds depth
        (markedField? platform level fieldDecl).toList) := by
  rw [scanFieldWithin, scanField, markedField?, h.built.typeBounds_eq]
  cases fieldDecl.marker? platform.argMarker with
  | none => exact .inl rfl
  | some marker =>
    dsimp only
    split
    · exact .inl rfl
    · rcases finds_argumentWithin table platform (ofClass decl inherited).typeBounds depth
        ⟨level, fieldDecl, marker⟩ with
        hfound | ⟨hnone, hreason⟩
      · rw [hfound, MarkedField.argument]
        cases argumentOf table platform (ofClass decl inherited).typeBounds level fieldDecl
          marker <;> exact .inl rfl
      · rw [hnone]
        exact .inr ⟨rfl, ⟨level, fieldDecl, marker⟩, List.mem_singleton_self _, hreason⟩

theorem finds_scanFieldsWithin (level : Level) (fieldDecls : List FieldDecl) :
    ∀ {collection : Collection} {selection : Selection},
    Tracks table platform decl inherited diagnostics collection selection →
    Finds (scanFieldsWithin table platform depth level collection fieldDecls)
      (scanFields table platform level collection fieldDecls)
      (Unanswered table platform (ofClass decl inherited).typeBounds depth
        (fieldDecls.filterMap (markedField? platform level))) := by
  induction fieldDecls with
  | nil => exact fun _ => .inl rfl
  | cons fieldDecl fieldDecls ih =>
    intro collection selection h
    have hhead : (markedField? platform level fieldDecl).toList ⊆
        (fieldDecl :: fieldDecls).filterMap (markedField? platform level) := fun marked hmem =>
      List.mem_filterMap.2 ⟨fieldDecl, List.mem_cons_self, Option.mem_toList.1 hmem⟩
    have htail := ((List.sublist_cons_self fieldDecl fieldDecls).filterMap
      (markedField? platform level)).subset
    rw [scanFieldsWithin, scanFields]
    rcases finds_scanFieldWithin depth h level fieldDecl with hfound | ⟨hnone, hreason⟩
    · rw [hfound]
      cases hscan : scanField table platform level collection fieldDecl with
      | error failure => exact .inl rfl
      | ok next =>
        exact (ih (h.scanField hscan)).mono fun hreason => hreason.mono htail
    · rw [hnone]
      exact .inr ⟨rfl, hreason.mono hhead⟩

theorem finds_scanLevelsWithin (levels : List Level) :
    ∀ {collection : Collection} {selection : Selection},
    Tracks table platform decl inherited diagnostics collection selection →
    Finds (scanLevelsWithin table platform depth collection levels)
      (scanLevels table platform collection levels)
      (Unanswered table platform (ofClass decl inherited).typeBounds depth
        (markedFields platform levels)) := by
  induction levels with
  | nil => exact fun _ => .inl rfl
  | cons level levels ih =>
    intro collection selection h
    rw [scanLevelsWithin, scanLevels, markedFields, List.flatMap_cons]
    rcases finds_scanFieldsWithin depth level level.decl.fields h with hfound | ⟨hnone, hreason⟩
    · rw [hfound]
      cases hscan : scanFields table platform level collection level.decl.fields with
      | error failure => exact .inl rfl
      | ok next =>
        exact (ih ((h.scanFields hscan).scanSetters level)).mono fun hreason =>
          hreason.mono (List.subset_append_right _ _)
    · rw [hnone]
      exact .inr ⟨rfl, hreason.mono (List.subset_append_left _ _)⟩

end Step

section Run

variable (table : ClassTable) (platform : Platform) (decl : ClassDecl) (diagnostics : Diagnostics)

/-- A collection that is followed to a depth finds its outcome, unless the storage of the type of a
marked field is not found there. -/
theorem finds_collectWithin (depth : Nat) :
    Finds (collectWithin table platform depth decl diagnostics)
      (collect table platform decl diagnostics)
      (Unanswered table platform
        (ofClass decl (scanInherited platform decl diagnostics).1).typeBounds depth
        (markedFields platform (Level.ofController table platform decl
          (scanInherited platform decl diagnostics).1))) := by
  unfold collectWithin collect
  dsimp only
  rcases finds_scanLevelsWithin depth
    (Level.ofController table platform decl (scanInherited platform decl diagnostics).1)
    (Tracks.start table platform decl diagnostics) with hfound | ⟨hnone, hreason⟩
  · rw [hfound]
    cases scanLevels table platform
      ⟨ofClass decl (scanInherited platform decl diagnostics).1,
        (scanInherited platform decl diagnostics).2⟩
      (Level.ofController table platform decl (scanInherited platform decl diagnostics).1) <;>
      exact .inl rfl
  · rw [hnone]
    exact .inr ⟨rfl, hreason⟩

/-- What a collection finds at some depth is its outcome. -/
theorem collect_of_within {depth : Nat} {outcome : Except Failure Collection}
    (h : collectWithin table platform depth decl diagnostics = some outcome) :
    collect table platform decl diagnostics = outcome := by
  rcases finds_collectWithin table platform decl diagnostics depth with hfound | ⟨hnone, -⟩
  · rw [h] at hfound
    exact (Option.some.inj hfound).symm
  · rw [h] at hnone
    cases hnone

end Run

/-- The levels of a controller are distinct classes, from the class itself upwards. A collection comes
to an end if the storage of the types of all marked fields of these levels is found at some depth, and
so over bounds of which those that are type variables form no cycle; where it comes to an end, what it
has found is the outcome. A collection that succeeds has as arguments the marked fields that the
selection keeps, and it has reported exactly one error for each field that the selection drops, in
their order. -/
theorem collect_selects_nearest (table : ClassTable) (platform : Platform) (decl : ClassDecl)
    (diagnostics : Diagnostics) :
    let inherited := (scanInherited platform decl diagnostics).1
    let levels := Level.ofController table platform decl inherited
    let marked := markedFields platform levels
    let bounds := (ofClass decl inherited).typeBounds
    (levels.head? = some ⟨decl, []⟩ ∧
      levels.IsChain (fun child parent => child.parent? table platform = some parent) ∧
      (levels.map fun level => level.decl.name).Nodup) ∧
    (∀ depth, (∀ field ∈ marked,
        Storage.ofTypeWithin table platform bounds depth field.type ≠ none) →
      collectWithin table platform depth decl diagnostics
        = some (collect table platform decl diagnostics)) ∧
    ((∀ name, ¬ TransGen (ClassTable.BoundedBy bounds) name name) →
      ∀ deeper ≥ Storage.classificationDepth bounds,
        collectWithin table platform deeper decl diagnostics
          = some (collect table platform decl diagnostics)) ∧
    (∀ depth outcome, collectWithin table platform depth decl diagnostics = some outcome →
      collect table platform decl diagnostics = outcome) ∧
    ∀ collection, collect table platform decl diagnostics = .ok collection →
      (∃ arguments,
        (select marked).kept.map (MarkedField.argument table platform bounds)
          = arguments.map Except.ok ∧
        (collection.controller.fields.map unresolved).Perm arguments) ∧
      ∃ added, collection.diagnostics.entries = diagnostics.entries ++ added ∧
        (errorsAmong added).map (·.element?)
          = (select marked).dropped.map (fun field => some field.element) ∧
        marked.length = collection.controller.fieldCount + (errorsAmong added).length := by
  intro inherited levels marked bounds
  have hends : ∀ depth, (∀ field ∈ marked,
        Storage.ofTypeWithin table platform bounds depth field.type ≠ none) →
      collectWithin table platform depth decl diagnostics
        = some (collect table platform decl diagnostics) := by
    intro depth hanswers
    rcases finds_collectWithin table platform decl diagnostics depth with
      hfound | ⟨-, field, hmem, hnone⟩
    · exact hfound
    · exact absurd hnone (hanswers field hmem)
  refine ⟨⟨Level.head?_ofController table platform decl inherited,
    Level.isChain_ofController table platform decl inherited,
    Level.names_ofController_nodup table platform decl inherited⟩, hends, ?_,
    fun _ _ hfound => collect_of_within table platform decl diagnostics hfound, ?_⟩
  · intro hacyclic deeper hdeeper
    refine hends deeper fun field _ hnone => ?_
    have hfound := Storage.ofTypeWithin_eq table platform bounds hacyclic field.type hdeeper
    rw [hnone] at hfound
    cases hfound
  · intro collection hcollect
    have htracks := tracks_of_collect hcollect
    obtain ⟨added, hentries, herrors⟩ := htracks.entries
    refine ⟨htracks.fields, added, hentries, herrors, ?_⟩
    have herrorCount := congrArg List.length herrors
    rw [List.length_map, List.length_map] at herrorCount
    -- Kept and dropped fields together are all marked fields.
    rw [htracks.fieldCount_eq, herrorCount]
    exact (size_select marked).symm

/-! ### Two levels -/

/-- A class with two arguments. -/
def baseDecl : ClassDecl :=
  { name := "Base", fields := [markedInt "id" [], markedInt "count" []] }

/-- A class below it that hides one of them and has a misplaced field. -/
def subDecl : ClassDecl :=
  { name := "Sub", superclass? := some (.named "Base"),
    fields := [markedInt "shared" [.static], markedInt "id" []] }

/-- The two classes. -/
def twoLevels : ClassTable := ClassTable.empty.insertAll [baseDecl, subDecl]

theorem ofController_twoLevels :
    Level.ofController twoLevels {} subDecl true = [⟨subDecl, []⟩, ⟨baseDecl, []⟩] := by
  have hup : Level.parent? twoLevels {} ⟨subDecl, []⟩ = some ⟨baseDecl, []⟩ := rfl
  have htop : Level.parent? twoLevels {} ⟨baseDecl, []⟩ = none := rfl
  rw [Level.ofController]
  rw [if_pos rfl, Level.climb_eq, hup]
  dsimp only
  rw [if_neg (by decide), Level.climb_eq, htop]

/-- The nearest field of a name is kept; the misplaced field and the hidden one are reported. -/
theorem collect_twoLevels_selects :
    (∀ name, ¬ TransGen (ClassTable.BoundedBy (ofClass subDecl true).typeBounds) name name) ∧
      ∃ collection, collectWithin twoLevels {} 8 subDecl ⟨true, []⟩ = some (.ok collection) ∧
        collection.controller.fieldCount = 2 ∧
        (errorsAmong collection.diagnostics.entries).map (·.element?)
          = [some "Sub#shared", some "Base#id"] := by
  have hacyclic : ∀ name,
      ¬ TransGen (ClassTable.BoundedBy (ofClass subDecl true).typeBounds) name name :=
    ClassTable.acyclic_of_no_variables (by decide)
  obtain ⟨scanned, hscanned, -⟩ := exists_collect_of_scan ⟨true, []⟩ ofController_twoLevels
    (fun _ => true) (by decide +kernel)
  obtain ⟨-, -, hends, houtcome, hall⟩ := collect_selects_nearest twoLevels {} subDecl ⟨true, []⟩
  have hfound : collectWithin twoLevels {} 8 subDecl ⟨true, []⟩ = some (.ok scanned) := by
    rw [hends hacyclic 8 (Nat.le_refl 8), hscanned]
  obtain ⟨-, added, hentries, herrors, hcount⟩ := hall scanned (houtcome 8 _ hfound)
  have hlevels : Level.ofController twoLevels {} subDecl
      (scanInherited {} subDecl ⟨true, []⟩).1 = [⟨subDecl, []⟩, ⟨baseDecl, []⟩] :=
    ofController_twoLevels
  rw [hlevels] at herrors hcount
  have hentries : scanned.diagnostics.entries = added := hentries
  have hdropped : (errorsAmong added).map (·.element?) = [some "Sub#shared", some "Base#id"] :=
    herrors.trans (by decide +kernel)
  have hlength := congrArg List.length hdropped
  rw [List.length_map] at hlength
  rw [hlength] at hcount
  have hmarked : (markedFields {} [⟨subDecl, []⟩, ⟨baseDecl, []⟩]).length = 4 := by
    decide +kernel
  refine ⟨hacyclic, scanned, hfound, ?_, hentries ▸ hdropped⟩
  rw [hmarked] at hcount
  have hsum : 4 = scanned.controller.fieldCount + 2 := hcount
  omega

/-! ### A type variable that bounds itself -/

/-- An argument whose type is a type variable. -/
def endlessField : FieldDecl :=
  { name := "items", type := .typeVariable "T", modifiers := [.publicAccess],
    annotations := [⟨"Arg", .empty⟩] }

/-- A controller with the argument, in which the type variable is one of its own bounds. -/
def endlessDecl : ClassDecl :=
  { name := "com.example.Detail",
    typeParameters :=
      [{ name := "T", bounds := [.named "java.io.Serializable", .typeVariable "T"] }],
    superclass? := some (.named "android.app.Fragment"),
    fields := [endlessField] }

/-- The classes of the platform, and the controller. -/
def endlessTable : ClassTable := (ClassTable.ofPlatform {}).insert endlessDecl

/-- The bounds of its type parameter. -/
def endlessBounds : TypeBounds := (ofClass endlessDecl true).typeBounds

theorem ofController_endless :
    Level.ofController endlessTable {} endlessDecl true = [⟨endlessDecl, []⟩] := by
  have htop : Level.parent? endlessTable {} ⟨endlessDecl, []⟩ = none := rfl
  rw [Level.ofController]
  rw [if_pos rfl, Level.climb_eq, htop]

theorem supertypeAs?_serializable :
    endlessTable.supertypeAs? (.named "java.io.Serializable") "java.util.ArrayList" = none := by
  have hstep : (endlessTable.find? "java.io.Serializable").map (ClassTable.supertypeStep · []) =
      some [] := by decide +kernel
  obtain ⟨decl, hfind, hnothing⟩ := Option.map_eq_some_iff.1 hstep
  rw [ClassTable.supertypeAs?, JavaType.named, ClassTable.searchSupertype_declared,
    if_neg (by decide), if_neg (by decide), hfind]
  dsimp only
  rw [hnothing, List.append_nil, ClassTable.searchSupertype]

/-- Whether the type variable is a list of texts depends on whether it is one. -/
theorem endless_unanswered (depth : Nat) :
    endlessTable.assignableWithin endlessBounds depth (.typeVariable "T")
      (Storage.listOf {} (.named "java.lang.String")) = none := by
  induction depth with
  | zero => rfl
  | succ depth ih =>
    have hround : endlessTable.assignableWithin endlessBounds (depth + 1) (.typeVariable "T")
        (Storage.listOf {} (.named "java.lang.String")) =
        ClassTable.anyAssignable (endlessTable.assignableWithin endlessBounds depth)
          (Storage.listOf {} (.named "java.lang.String"))
          [.named "java.io.Serializable", .typeVariable "T"] := rfl
    rw [hround, ClassTable.anyAssignable]
    cases depth with
    | zero => rfl
    | succ depth =>
      -- The first bound is no list, so the question goes on to the variable itself.
      have hfirst : endlessTable.assignableWithin endlessBounds (depth + 1)
          (.named "java.io.Serializable") (Storage.listOf {} (.named "java.lang.String")) =
          ClassTable.admitsView (endlessTable.assignableWithin endlessBounds depth)
            [.named "java.lang.String"]
            (endlessTable.supertypeAs? (.named "java.io.Serializable") "java.util.ArrayList") := rfl
      rw [hfirst, supertypeAs?_serializable, ClassTable.admitsView]
      · dsimp only
        rw [ClassTable.anyAssignable, ih]
      · intro name args hsome
        cases hsome

theorem argumentWithin_endless (depth : Nat) :
    argumentWithin endlessTable {} endlessBounds depth ⟨endlessDecl, []⟩ endlessField ⟨"Arg", .empty⟩ =
      none := by
  have hstorage : Storage.ofTypeWithin endlessTable {} endlessBounds depth
      (endlessField.type.substitute (Level.mk endlessDecl []).bindings) = none := by
    have hsearch : Storage.ofTypeWithin endlessTable {} endlessBounds depth
        (endlessField.type.substitute (Level.mk endlessDecl []).bindings) =
        Storage.firstWithin (endlessTable.assignableWithin endlessBounds depth (.typeVariable "T"))
          (Storage.structuralTypes {}) := rfl
    rw [hsearch, Storage.structuralTypes, Storage.firstWithin, endless_unanswered]
  have hcodec : Codec.ofMarker endlessTable {} ⟨"Arg", .empty⟩ endlessDecl.package
      (FieldSite.element ⟨endlessField.name, endlessDecl.name⟩) = .ok none := rfl
  have hwithin : storageWithin endlessTable {} endlessBounds depth ⟨endlessDecl, []⟩ endlessField
      none = none := by
    unfold storageWithin
    dsimp only
    rw [hstorage]
  rw [argumentWithin, hcodec]
  dsimp only
  rw [hwithin]

/-- The collection of its arguments has no outcome at any depth. -/
theorem collection_unanswered :
    ¬ ∃ depth outcome, collectWithin endlessTable {} depth endlessDecl ⟨true, []⟩ = some outcome := by
  rintro ⟨depth, outcome, houtcome⟩
  have hmarker : endlessField.marker? ({} : Platform).argMarker = some ⟨"Arg", .empty⟩ := by
    decide +kernel
  have hplaced : ¬ (.static ∈ endlessField.modifiers ∨ .final ∈ endlessField.modifiers) := by decide
  have hfield : scanFieldWithin endlessTable {} depth ⟨endlessDecl, []⟩
      ⟨ofClass endlessDecl true, ⟨true, []⟩⟩ endlessField = none := by
    rw [scanFieldWithin, hmarker]
    dsimp only
    rw [if_neg hplaced]
    rw [show (ofClass endlessDecl true).typeBounds = endlessBounds from rfl, argumentWithin_endless]
  have hlevels : Level.ofController endlessTable {} endlessDecl
      (scanInherited {} endlessDecl ⟨true, []⟩).1 = [⟨endlessDecl, []⟩] := ofController_endless
  have hscan : scanFieldsWithin endlessTable {} depth ⟨endlessDecl, []⟩
      ⟨ofClass endlessDecl true, ⟨true, []⟩⟩ endlessDecl.fields = none := by
    rw [show endlessDecl.fields = [endlessField] from rfl, scanFieldsWithin, hfield]
  have hstart : scanInherited {} endlessDecl ⟨true, []⟩ = (true, ⟨true, []⟩) := rfl
  unfold collectWithin at houtcome
  dsimp only at houtcome
  rw [hlevels, hstart, scanLevelsWithin, hscan] at houtcome
  cases houtcome

end BundleBuilder.Controller
