import BundleBuilder.Proofs.Generation.Completeness

/-!
# Advisory options

Three options concern what a run says and which classes surround the builders, and not the builders
themselves. Without warnings a run does the same and leaves the warnings out (`silenced`), although
errors, warnings and notes go into one list and the number of errors in it decides which controllers
are accepted. A library gets everything but the dispatch class. And if the support annotations are not
available, asking for them has no effect but one warning, in front of everything else
(`advisory_options_only_advise`).
-/

set_option autoImplicit false

namespace BundleBuilder

/-! ## Diagnostics without warnings -/

namespace Diagnostics

/-- What is left of diagnostics when warnings are not kept. -/
def silenced (diagnostics : Diagnostics) : Diagnostics :=
  ⟨false, diagnostics.entries.filter fun entry => entry.severity ≠ .warning⟩

variable (diagnostics : Diagnostics)

@[simp] theorem entries_silenced :
    diagnostics.silenced.entries
      = diagnostics.entries.filter fun entry => entry.severity ≠ .warning := rfl

theorem add_silenced {entry : Diagnostic} (hkept : entry.severity ≠ .warning) :
    diagnostics.silenced.add entry = (diagnostics.add entry).silenced := by
  simp [add, silenced, hkept]

theorem warning_silenced (message : String) (element? : Option String) :
    diagnostics.silenced.warning message element?
      = (diagnostics.warning message element?).silenced := by
  have hentries : (diagnostics.warning message element?).silenced.entries
      = diagnostics.silenced.entries := by
    rw [entries_silenced, entries_warning, List.filter_append]
    split <;> simp
  exact congrArg (Diagnostics.mk false) hentries.symm

/-- Warnings can be left out before or after another entry is added. -/
theorem commutes_silenced : CommutesWithEntries silenced where
  report := fun diagnostics _ => diagnostics.add_silenced Severity.noConfusion
  warning := warning_silenced
  note := fun diagnostics _ _ => diagnostics.add_silenced Severity.noConfusion

/-- Leaving out the warnings leaves all errors. -/
theorem errorCount_silenced : diagnostics.silenced.errorCount = diagnostics.errorCount := by
  have herror : (fun entry : Diagnostic => entry.severity == .error && entry.severity ≠ .warning)
      = fun entry => entry.severity == .error := by
    funext entry
    cases entry.severity <;> rfl
  rw [errorCount, count, entries_silenced, List.countP_filter, herror]
  rfl

theorem hasErrors_silenced : diagnostics.silenced.hasErrors = diagnostics.hasErrors := by
  simp only [hasErrors, errorCount_silenced]

end Diagnostics

namespace Generation

open Table Java

/-- Two generations differ at most in their diagnostics. -/
structure EqualUpToDiagnostics (first second : Generation) : Prop where
  units : first.units = second.units
  controllers : first.controllers = second.controllers
  routes : first.routes = second.routes

variable (table : ClassTable) (options : Options)

/-- Runs that accept the same controllers differ at most in their diagnostics, if they write builders
and the dispatch class in the same way. -/
theorem equalUpToDiagnostics_of_controllers {first second : Options}
    (hcontrollers : (run table first).controllers = (run table second).controllers)
    (hbuilder : builderOf table first (usesSupport table first)
      = builderOf table second (usesSupport table second))
    (hdispatch : dispatchUnits first = dispatchUnits second) :
    EqualUpToDiagnostics (run table first) (run table second) := by
  have hroutes : (run table first).routes = (run table second).routes := by
    rw [routes_run, routes_run, hcontrollers]
  refine ⟨?_, hcontrollers, hroutes⟩
  rw [units_run, units_run, hcontrollers, hroutes, hbuilder, hdispatch]

/-! ## Runs without warnings -/

section Warnings

/-- The attempt without warnings is the attempt with warnings, and these left out. -/
theorem alone_silenced (decl : ClassDecl) :
    alone table { options with logWarnings := false } decl
      = mapAttempt Diagnostics.silenced (alone table { options with logWarnings := true } decl) :=
  attempt_change Diagnostics.commutes_silenced table options.platform decl ⟨true, []⟩

theorem acceptedAlone?_silenced (decl : ClassDecl) :
    acceptedAlone? table { options with logWarnings := false } decl
      = acceptedAlone? table { options with logWarnings := true } decl := by
  rw [acceptedAlone?, acceptedAlone?, alone_silenced]
  cases alone table { options with logWarnings := true } decl with
  | error failure => rfl
  | ok result =>
    simp only [mapAttempt, Diagnostics.hasErrors_silenced]

theorem entriesAlone_silenced (decl : ClassDecl) :
    entriesAlone table { options with logWarnings := false } decl
      = (entriesAlone table { options with logWarnings := true } decl).filter
          fun entry => entry.severity ≠ .warning := by
  rw [entriesAlone, entriesAlone, alone_silenced]
  cases alone table { options with logWarnings := true } decl with
  | error failure =>
    -- What ends an attempt is an error, so it is not left out.
    rw [List.filter_append]
    rfl
  | ok result => rfl

theorem acceptedAmong_silenced (decls : List ClassDecl) :
    acceptedAmong table { options with logWarnings := false } decls
      = acceptedAmong table { options with logWarnings := true } decls := by
  rw [acceptedAmong, acceptedAmong]
  exact congrArg (decls.filterMap ·) (funext (acceptedAlone?_silenced table options))

/-- The errors about stray arguments are kept, all other preliminary entries are warnings. -/
theorem preliminaryEntries_silenced :
    preliminaryEntries table { options with logWarnings := false }
      = (preliminaryEntries table { options with logWarnings := true }).filter
          fun entry => entry.severity ≠ .warning := by
  have hsupport : (supportEntries table { options with logWarnings := true }).filter
      (fun entry => entry.severity ≠ .warning) = [] := by
    rw [supportEntries]
    split <;> rfl
  have hstray : (strayEntries table options).filter (fun entry => entry.severity ≠ .warning)
      = strayEntries table options := by
    rw [List.filter_eq_self]
    intro entry hentry
    obtain ⟨error, -, rfl⟩ := List.mem_map.1 hentry
    rfl
  have hunmarked : (unmarkedEntries table { options with logWarnings := true }).filter
      (fun entry => entry.severity ≠ .warning) = [] := by
    rw [List.filter_eq_nil_iff]
    intro entry hentry
    obtain ⟨decl, -, rfl⟩ := List.mem_map.1 hentry
    simp
  have hnone : supportEntries table { options with logWarnings := false } = [] := by
    rw [supportEntries, Bool.and_false]
    rfl
  rw [preliminaryEntries, preliminaryEntries, List.filter_append, List.filter_append, hsupport,
    hunmarked, hnone]
  exact congrArg (· ++ []) hstray.symm

/-- Without warnings a run does the same and leaves the warnings out. -/
theorem run_silenced :
    EqualUpToDiagnostics (run table { options with logWarnings := false })
        (run table { options with logWarnings := true }) ∧
      (run table { options with logWarnings := false }).diagnostics
        = (run table { options with logWarnings := true }).diagnostics.silenced := by
  have hcontrollers : (run table { options with logWarnings := false }).controllers
      = (run table { options with logWarnings := true }).controllers := by
    rw [controllers_run, controllers_run]
    exact acceptedAmong_silenced table options _
  have hentries : entriesAlone table { options with logWarnings := false }
      = fun decl => (entriesAlone table { options with logWarnings := true } decl).filter
          fun entry => entry.severity ≠ .warning :=
    funext (entriesAlone_silenced table options)
  refine ⟨equalUpToDiagnostics_of_controllers table hcontrollers rfl rfl, ?_⟩
  rw [diagnostics_run, diagnostics_run, Diagnostics.silenced, preliminaryEntries_silenced, hentries,
    List.filter_append, List.filter_flatMap]

end Warnings

/-! ## Libraries -/

/-- A library gets everything but the dispatch class. -/
theorem run_library :
    (run table { options with library := true }).controllers
        = (run table { options with library := false }).controllers ∧
      (run table { options with library := true }).routes
        = (run table { options with library := false }).routes ∧
      (run table { options with library := true }).diagnostics
        = (run table { options with library := false }).diagnostics ∧
      (run table { options with library := false }).units
        = (run table { options with library := true }).units ++
          dispatchUnits { options with library := false }
            (run table { options with library := false }).routes := by
  have hcontrollers : (run table { options with library := true }).controllers
      = (run table { options with library := false }).controllers := by
    rw [controllers_run, controllers_run]
    rfl
  refine ⟨hcontrollers, ?_, ?_, ?_⟩
  · rw [routes_run, routes_run, hcontrollers]
  · rw [diagnostics_run, diagnostics_run]
    rfl
  · have hnone : dispatchUnits { options with library := true }
        (run table { options with library := true }).routes = [] := by
      rw [dispatchUnits, Bool.true_or, if_pos rfl]
    rw [units_run, units_run table { options with library := true }, hnone, List.append_nil,
      hcontrollers]
    rfl

/-! ## Support annotations -/

/-- The warning about missing support annotations comes first. -/
theorem preliminaryEntries_missing_support
    (hmissing : table.contains (supportProbe options) = false) :
    preliminaryEntries table { options with supportAnnotations := true }
      = (if options.logWarnings then [⟨.warning, missingSupport options, none⟩] else [])
        ++ preliminaryEntries table { options with supportAnnotations := false } := by
  have hprobe : table.contains (supportProbe { options with supportAnnotations := true }) = false :=
    hmissing
  have hwarned : supportEntries table { options with supportAnnotations := true }
      = if options.logWarnings then [⟨.warning, missingSupport options, none⟩] else [] := by
    rw [supportEntries, hprobe]
    rfl
  have hnone : supportEntries table { options with supportAnnotations := false } = [] := rfl
  rw [preliminaryEntries, preliminaryEntries, hwarned, hnone, List.nil_append, List.append_assoc]
  rfl

/-- If the support annotations are not available, asking for them has no effect but a warning in front
of everything else. -/
theorem run_missing_support (hmissing : table.contains (supportProbe options) = false) :
    EqualUpToDiagnostics (run table { options with supportAnnotations := true })
        (run table { options with supportAnnotations := false }) ∧
      (run table { options with supportAnnotations := true }).diagnostics
        = (run table { options with supportAnnotations := false }).diagnostics.after
            (if options.logWarnings then [⟨.warning, missingSupport options, none⟩] else []) := by
  have hcontrollers : (run table { options with supportAnnotations := true }).controllers
      = (run table { options with supportAnnotations := false }).controllers := by
    rw [controllers_run, controllers_run]
    rfl
  refine ⟨equalUpToDiagnostics_of_controllers table hcontrollers ?_ rfl, ?_⟩
  · have hunused : usesSupport table { options with supportAnnotations := true } = false := hmissing
    rw [hunused]
    rfl
  · rw [diagnostics_run, diagnostics_run, preliminaryEntries_missing_support table options hmissing,
      List.append_assoc]
    rfl

/-! ## All three -/

/-- The advisory options do not influence what is generated. Without warnings a run generates the same
and reports the same but for the warnings. A library gets everything but the dispatch class, which is
the last unit if there is one. And if the support annotations are not available, asking for them adds
one warning, in front of everything else, and nothing if warnings are not kept. -/
theorem advisory_options_only_advise :
    (EqualUpToDiagnostics (run table { options with logWarnings := false })
        (run table { options with logWarnings := true }) ∧
      (run table { options with logWarnings := false }).diagnostics.entries
        = (run table { options with logWarnings := true }).diagnostics.entries.filter
            fun entry => entry.severity ≠ .warning) ∧
    ((run table { options with library := true }).controllers
        = (run table { options with library := false }).controllers ∧
      (run table { options with library := true }).routes
        = (run table { options with library := false }).routes ∧
      (run table { options with library := true }).diagnostics
        = (run table { options with library := false }).diagnostics ∧
      (run table { options with library := false }).units
        = (run table { options with library := true }).units ++
          if (run table { options with library := false }).routes.entries.isEmpty then []
          else [dispatchUnit options.platform
            (run table { options with library := false }).routes]) ∧
    (table.contains (supportProbe options) = false →
      EqualUpToDiagnostics (run table { options with supportAnnotations := true })
          (run table { options with supportAnnotations := false }) ∧
        (run table { options with supportAnnotations := true }).diagnostics.entries
          = (if options.logWarnings then [⟨.warning, missingSupport options, none⟩] else [])
            ++ (run table { options with supportAnnotations := false }).diagnostics.entries) := by
  refine ⟨?_, ?_, fun hmissing => ?_⟩
  · obtain ⟨hsame, hdiagnostics⟩ := run_silenced table options
    refine ⟨hsame, ?_⟩
    rw [hdiagnostics, Diagnostics.entries_silenced]
  · obtain ⟨hcontrollers, hroutes, hdiagnostics, hunits⟩ := run_library table options
    refine ⟨hcontrollers, hroutes, hdiagnostics, ?_⟩
    rw [hunits]
    rfl
  · obtain ⟨hsame, hdiagnostics⟩ := run_missing_support table options hmissing
    refine ⟨hsame, ?_⟩
    rw [hdiagnostics, Diagnostics.entries_after]

/-- The support annotations are not available to the only class of the table. -/
theorem advisory_options_only_advise_solo :
    soloTable.contains (supportProbe {}) = false ∧
      (run soloTable {}).units = (run soloTable { supportAnnotations := false }).units ∧
      (run soloTable {}).diagnostics.entries
        = ⟨.warning, missingSupport {}, none⟩
          :: (run soloTable { supportAnnotations := false }).diagnostics.entries := by
  have hmissing : soloTable.contains (supportProbe {}) = false := by decide +kernel
  obtain ⟨-, -, hsupport⟩ := advisory_options_only_advise soloTable {}
  obtain ⟨hsame, hentries⟩ := hsupport hmissing
  exact ⟨hmissing, hsame.units, hentries⟩

end Generation

end BundleBuilder
