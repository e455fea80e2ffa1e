import BundleBuilder.Controller.Collect

/-!
# Collecting does not read diagnostics

A collection writes diagnostics and never reads them. So a change of the diagnostics that can be made
before an entry is added or after it, can be made before a whole collection or after it
(`collect_change`). Every step of the collection has this property, from a single report upwards. In
particular a collection does the same behind entries that are already there, and leaves its own
entries behind these (`Diagnostics.commutes_after`).
-/

set_option autoImplicit false

namespace BundleBuilder

/-- The entry that reporting an error adds. -/
def ProcessingError.entry (error : ProcessingError) : Diagnostic :=
  ⟨.error, error.message, some error.element⟩

namespace Diagnostics

/-- A change of diagnostics can be made before an entry is added or after it. -/
structure CommutesWithEntries (change : Diagnostics → Diagnostics) : Prop where
  report : ∀ diagnostics error,
    (change diagnostics).report error = change (diagnostics.report error)
  warning : ∀ diagnostics message element?,
    (change diagnostics).warning message element? = change (diagnostics.warning message element?)
  note : ∀ diagnostics message element?,
    (change diagnostics).note message element? = change (diagnostics.note message element?)

/-- The diagnostics with earlier entries in front of their own. -/
def after (earlier : List Diagnostic) (diagnostics : Diagnostics) : Diagnostics :=
  { diagnostics with entries := earlier ++ diagnostics.entries }

variable (earlier : List Diagnostic) (diagnostics : Diagnostics)

@[simp] theorem entries_after : (diagnostics.after earlier).entries = earlier ++ diagnostics.entries :=
  rfl

@[simp] theorem warningsEnabled_after :
    (diagnostics.after earlier).warningsEnabled = diagnostics.warningsEnabled := rfl

theorem add_after (entry : Diagnostic) :
    (diagnostics.after earlier).add entry = (diagnostics.add entry).after earlier := by
  simp [add, after]

theorem report_after (error : ProcessingError) :
    (diagnostics.after earlier).report error = (diagnostics.report error).after earlier :=
  add_after earlier diagnostics error.entry

theorem warning_after (message : String) (element? : Option String) :
    (diagnostics.after earlier).warning message element?
      = (diagnostics.warning message element?).after earlier := by
  simp only [warning]
  rw [warningsEnabled_after]
  split
  · exact add_after earlier diagnostics _
  · rfl

/-- Entries can be put in front before or after another one is added behind. -/
theorem commutes_after : CommutesWithEntries (after earlier) where
  report := report_after earlier
  warning := warning_after earlier
  note := fun diagnostics _ _ => add_after earlier diagnostics _

@[simp] theorem entries_report (error : ProcessingError) :
    (diagnostics.report error).entries = diagnostics.entries ++ [error.entry] := rfl

theorem warningsEnabled_report (error : ProcessingError) :
    (diagnostics.report error).warningsEnabled = diagnostics.warningsEnabled := rfl

@[simp] theorem warningsEnabled_warning (message : String) (element? : Option String) :
    (diagnostics.warning message element?).warningsEnabled = diagnostics.warningsEnabled := by
  rw [warning]
  split <;> rfl

@[simp] theorem entries_warning (message : String) (element? : Option String) :
    (diagnostics.warning message element?).entries = diagnostics.entries ++
      if diagnostics.warningsEnabled then [⟨.warning, message, element?⟩] else [] := by
  rw [warning]
  split
  · rfl
  · simp

end Diagnostics

namespace Controller

/-- A failure whose diagnostics are changed. -/
def Failure.mapDiagnostics (change : Diagnostics → Diagnostics) (failure : Failure) : Failure :=
  { failure with diagnostics := change failure.diagnostics }

/-- A collection whose diagnostics are changed. -/
def Collection.mapDiagnostics (change : Diagnostics → Diagnostics) (collection : Collection) :
    Collection :=
  { collection with diagnostics := change collection.diagnostics }

/-- The outcome of a scan with changed diagnostics. -/
def mapOutcome (change : Diagnostics → Diagnostics) :
    Except Failure Collection → Except Failure Collection
  | .error failure => .error (failure.mapDiagnostics change)
  | .ok collection => .ok (collection.mapDiagnostics change)

/-- A failure with earlier diagnostics in front of its own. -/
def Failure.after (earlier : List Diagnostic) (failure : Failure) : Failure :=
  { failure with diagnostics := failure.diagnostics.after earlier }

/-- The diagnostics of a scan, whether it failed or not. -/
def outcomeDiagnostics : Except Failure Collection → Diagnostics
  | .error failure => failure.diagnostics
  | .ok collection => collection.diagnostics

section Change

variable {change : Diagnostics → Diagnostics} (h : Diagnostics.CommutesWithEntries change)

include h

/-! ## Single fields -/

theorem Collection.report_change (collection : Collection) (error : ProcessingError) :
    (collection.mapDiagnostics change).report error
      = (collection.report error).mapDiagnostics change := by
  simp only [Collection.report, Collection.mapDiagnostics, h.report]

theorem Collection.warnSerializable_change (collection : Collection) (field : ArgField) :
    (collection.mapDiagnostics change).warnSerializable field
      = (collection.warnSerializable field).mapDiagnostics change := by
  simp only [Collection.warnSerializable]
  split
  · simp only [Collection.mapDiagnostics, h.warning]
  · rfl

theorem Collection.enter_change (collection : Collection) (field : ArgField) :
    (collection.mapDiagnostics change).enter field
      = (collection.enter field).mapDiagnostics change := by
  have hcontroller : (collection.mapDiagnostics change).controller = collection.controller := rfl
  simp only [Collection.enter]
  rw [hcontroller]
  split
  · rfl
  · next controller error heq =>
    exact Collection.report_change h { collection with controller } error

theorem Collection.record_change (collection : Collection) (field : ArgField) :
    (collection.mapDiagnostics change).record field
      = (collection.record field).mapDiagnostics change := by
  simp only [Collection.record]
  rw [collection.warnSerializable_change h, Collection.enter_change h]

theorem scanField_change (table : ClassTable) (platform : Platform) (level : Level)
    (collection : Collection) (decl : FieldDecl) :
    scanField table platform level (collection.mapDiagnostics change) decl
      = mapOutcome change (scanField table platform level collection decl) := by
  simp only [scanField]
  cases decl.marker? platform.argMarker with
  | none => rfl
  | some marker =>
    by_cases hm : .static ∈ decl.modifiers ∨ .final ∈ decl.modifiers
    · simp only [hm, if_true, Collection.report_change h, mapOutcome]
    · have hbounds : (collection.mapDiagnostics change).controller.typeBounds
          = collection.controller.typeBounds := rfl
      simp only [hm, if_false, hbounds]
      cases argumentOf table platform collection.controller.typeBounds level decl marker with
      | error error => rfl
      | ok field => simp only [Collection.record_change h, mapOutcome]

/-! ## Whole scans -/

theorem scanFields_change (table : ClassTable) (platform : Platform) (level : Level)
    (decls : List FieldDecl) : ∀ collection : Collection,
    scanFields table platform level (collection.mapDiagnostics change) decls
      = mapOutcome change (scanFields table platform level collection decls) := by
  induction decls with
  | nil => exact fun _ => rfl
  | cons decl decls ih =>
    intro collection
    simp only [scanFields, scanField_change h]
    cases scanField table platform level collection decl with
    | error failure => rfl
    | ok next => exact ih next

theorem scanLevels_change (table : ClassTable) (platform : Platform) (levels : List Level) :
    ∀ collection : Collection,
    scanLevels table platform (collection.mapDiagnostics change) levels
      = mapOutcome change (scanLevels table platform collection levels) := by
  induction levels with
  | nil => exact fun _ => rfl
  | cons level levels ih =>
    intro collection
    simp only [scanLevels, scanFields_change h]
    cases scanFields table platform level collection level.decl.fields with
    | error failure => rfl
    | ok next => exact ih { next with controller := next.controller.scanSetters level }

theorem scanInherited_change (platform : Platform) (decl : ClassDecl) (diagnostics : Diagnostics) :
    scanInherited platform decl (change diagnostics)
      = ((scanInherited platform decl diagnostics).1,
          change (scanInherited platform decl diagnostics).2) := by
  simp only [scanInherited]
  cases decl.marker? platform.controllerMarker with
  | some marker => rfl
  | none =>
    cases decl.marker? platform.inheritedMarker with
    | none => rfl
    | some marker => simp only [h.warning]

omit h in
theorem Collection.finish_change (collection : Collection) :
    (collection.mapDiagnostics change).finish = mapOutcome change collection.finish := by
  have hcontroller : (collection.mapDiagnostics change).controller = collection.controller := rfl
  simp only [Collection.finish]
  rw [hcontroller]
  cases collection.controller.resolveSetters <;> rfl

/-- A change that commutes with adding entries can be made before or after a collection. -/
theorem collect_change (table : ClassTable) (platform : Platform) (decl : ClassDecl)
    (diagnostics : Diagnostics) :
    collect table platform decl (change diagnostics)
      = mapOutcome change (collect table platform decl diagnostics) := by
  simp only [collect]
  rw [scanInherited_change h]
  have hscan := scanLevels_change h table platform
    (Level.ofController table platform decl (scanInherited platform decl diagnostics).1)
    ⟨ofClass decl (scanInherited platform decl diagnostics).1,
      (scanInherited platform decl diagnostics).2⟩
  simp only [Collection.mapDiagnostics] at hscan
  simp only [hscan]
  cases scanLevels table platform _ _ with
  | error failure => rfl
  | ok collection => exact collection.finish_change

end Change

/-! ## The setting for warnings -/

theorem Collection.warningsEnabled_record (collection : Collection) (field : ArgField) :
    (collection.record field).diagnostics.warningsEnabled
      = collection.diagnostics.warningsEnabled := by
  have hwarn : (collection.warnSerializable field).diagnostics.warningsEnabled
      = collection.diagnostics.warningsEnabled := by
    rw [Collection.warnSerializable]
    split
    · exact Diagnostics.warningsEnabled_warning _ _ _
    · rfl
  rw [← hwarn]
  rw [Collection.record, Collection.enter]
  split <;> rfl

theorem warningsEnabled_scanField (table : ClassTable) (platform : Platform) (level : Level)
    (collection : Collection) (decl : FieldDecl) :
    (outcomeDiagnostics (scanField table platform level collection decl)).warningsEnabled
      = collection.diagnostics.warningsEnabled := by
  rw [scanField]
  cases decl.marker? platform.argMarker with
  | none => rfl
  | some marker =>
    by_cases hm : .static ∈ decl.modifiers ∨ .final ∈ decl.modifiers
    · simp only [hm, if_true]
      rfl
    · simp only [hm, if_false]
      cases argumentOf table platform collection.controller.typeBounds level decl marker with
      | error error => rfl
      | ok field => exact Collection.warningsEnabled_record collection field

theorem warningsEnabled_scanFields (table : ClassTable) (platform : Platform) (level : Level)
    (decls : List FieldDecl) : ∀ collection : Collection,
    (outcomeDiagnostics (scanFields table platform level collection decls)).warningsEnabled
      = collection.diagnostics.warningsEnabled := by
  induction decls with
  | nil => exact fun _ => rfl
  | cons decl decls ih =>
    intro collection
    have hstep := warningsEnabled_scanField table platform level collection decl
    simp only [scanFields]
    cases hs : scanField table platform level collection decl with
    | error failure =>
      rw [hs] at hstep
      exact hstep
    | ok next =>
      rw [hs] at hstep
      exact (ih next).trans hstep

theorem warningsEnabled_scanLevels (table : ClassTable) (platform : Platform)
    (levels : List Level) : ∀ collection : Collection,
    (outcomeDiagnostics (scanLevels table platform collection levels)).warningsEnabled
      = collection.diagnostics.warningsEnabled := by
  induction levels with
  | nil => exact fun _ => rfl
  | cons level levels ih =>
    intro collection
    have hfields := warningsEnabled_scanFields table platform level level.decl.fields collection
    simp only [scanLevels]
    cases hs : scanFields table platform level collection level.decl.fields with
    | error failure =>
      rw [hs] at hfields
      exact hfields
    | ok next =>
      rw [hs] at hfields
      exact (ih { next with controller := next.controller.scanSetters level }).trans hfields

theorem warningsEnabled_scanInherited (platform : Platform) (decl : ClassDecl)
    (diagnostics : Diagnostics) :
    (scanInherited platform decl diagnostics).2.warningsEnabled = diagnostics.warningsEnabled := by
  rw [scanInherited]
  cases decl.marker? platform.controllerMarker with
  | some marker => rfl
  | none =>
    cases decl.marker? platform.inheritedMarker with
    | none => rfl
    | some marker => exact Diagnostics.warningsEnabled_warning _ _ _

theorem Collection.warningsEnabled_finish (collection : Collection) :
    (outcomeDiagnostics collection.finish).warningsEnabled
      = collection.diagnostics.warningsEnabled := by
  rw [Collection.finish]
  cases collection.controller.resolveSetters <;> rfl

/-- A collection does not switch warnings on or off. -/
theorem warningsEnabled_collect (table : ClassTable) (platform : Platform) (decl : ClassDecl)
    (diagnostics : Diagnostics) :
    (outcomeDiagnostics (collect table platform decl diagnostics)).warningsEnabled
      = diagnostics.warningsEnabled := by
  have hscan := warningsEnabled_scanLevels table platform
    (Level.ofController table platform decl (scanInherited platform decl diagnostics).1)
    ⟨ofClass decl (scanInherited platform decl diagnostics).1,
      (scanInherited platform decl diagnostics).2⟩
  rw [← warningsEnabled_scanInherited platform decl diagnostics]
  unfold collect
  cases hs : scanLevels table platform
      ⟨ofClass decl (scanInherited platform decl diagnostics).1,
        (scanInherited platform decl diagnostics).2⟩
      (Level.ofController table platform decl (scanInherited platform decl diagnostics).1) with
  | error failure =>
    rw [hs] at hscan
    simpa only [hs] using hscan
  | ok collection =>
    rw [hs] at hscan
    simp only [hs]
    exact (Collection.warningsEnabled_finish collection).trans hscan

end Controller

end BundleBuilder
