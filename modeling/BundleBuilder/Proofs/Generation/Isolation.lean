import BundleBuilder.Generation
import BundleBuilder.Proofs.Controller.Reporting

/-!
# Candidates are processed in isolation

One value of diagnostics runs through all phases and all candidates of a run, and whether a
candidate failed is read off the number of errors before and after it. Nevertheless a candidate
contributes exactly what an attempt without any earlier diagnostics says: its controller if that
attempt has one and reports no error, and the entries of that attempt. A run is the preliminary
entries followed by these contributions, in the order of the candidates' names
(`run_isolates_candidates`).
-/

set_option autoImplicit false

namespace BundleBuilder.Generation

open Table Java

/-! ## Attempts and what was reported before -/

/-- The outcome of an attempt with changed diagnostics. -/
def mapAttempt (change : Diagnostics → Diagnostics) :
    Except Controller.Failure (Option Controller × Diagnostics) →
      Except Controller.Failure (Option Controller × Diagnostics)
  | .error failure => .error (failure.mapDiagnostics change)
  | .ok (controller?, diagnostics) => .ok (controller?, change diagnostics)

/-- A change that commutes with adding entries can be made before or after an attempt. -/
theorem attempt_change {change : Diagnostics → Diagnostics}
    (h : Diagnostics.CommutesWithEntries change) (table : ClassTable) (platform : Platform)
    (decl : ClassDecl) (diagnostics : Diagnostics) :
    attempt table platform decl (change diagnostics)
      = mapAttempt change (attempt table platform decl diagnostics) := by
  simp only [attempt]
  by_cases hcontroller : (!isController table platform decl.name) = true
  · simp only [hcontroller, if_true]
    rfl
  · simp only [hcontroller, Bool.false_eq_true, if_false]
    by_cases habstract : decl.isAbstract = true
    · simp only [habstract, if_true, h.note]
      rfl
    · simp only [habstract, Bool.false_eq_true, if_false]
      cases classError? decl with
      | some error => rfl
      | none =>
        simp only [Controller.collect_change h]
        cases Controller.collect table platform decl diagnostics with
        | error failure => rfl
        | ok collection => rfl

/-- The outcome of an attempt with earlier diagnostics in front of its own. -/
def attemptAfter (earlier : List Diagnostic) :
    Except Controller.Failure (Option Controller × Diagnostics) →
      Except Controller.Failure (Option Controller × Diagnostics)
  | .error failure => .error (failure.after earlier)
  | .ok (controller?, diagnostics) => .ok (controller?, diagnostics.after earlier)

/-- An attempt that starts behind earlier diagnostics does what it does without them. -/
theorem attempt_after (table : ClassTable) (platform : Platform) (decl : ClassDecl)
    (diagnostics : Diagnostics) (earlier : List Diagnostic) :
    attempt table platform decl (diagnostics.after earlier)
      = attemptAfter earlier (attempt table platform decl diagnostics) := by
  rw [attempt_change (Diagnostics.commutes_after earlier)]
  cases attempt table platform decl diagnostics <;> rfl

/-- The diagnostics of an attempt, whether it failed or not. -/
def attemptDiagnostics : Except Controller.Failure (Option Controller × Diagnostics) → Diagnostics
  | .error failure => failure.diagnostics
  | .ok (_, diagnostics) => diagnostics

theorem warningsEnabled_attempt (table : ClassTable) (platform : Platform) (decl : ClassDecl)
    (diagnostics : Diagnostics) :
    (attemptDiagnostics (attempt table platform decl diagnostics)).warningsEnabled
      = diagnostics.warningsEnabled := by
  rw [attempt]
  by_cases hcontroller : (!isController table platform decl.name) = true
  · simp only [hcontroller, if_true]
    rfl
  · simp only [hcontroller, Bool.false_eq_true, if_false]
    by_cases habstract : decl.isAbstract = true
    · simp only [habstract, if_true]
      rfl
    · simp only [habstract, Bool.false_eq_true, if_false]
      cases classError? decl with
      | some error => rfl
      | none =>
        have hcollect := Controller.warningsEnabled_collect table platform decl diagnostics
        cases hc : Controller.collect table platform decl diagnostics with
        | error failure =>
          rw [hc] at hcollect
          exact hcollect
        | ok collection =>
          rw [hc] at hcollect
          exact hcollect

/-! ## What a candidate contributes -/

section Contribution

variable (table : ClassTable) (options : Options)

/-- The diagnostics of a run before anything is reported. -/
def noDiagnostics : Diagnostics := { warningsEnabled := options.logWarnings }

/-- The attempt to process a class by itself. -/
def alone (decl : ClassDecl) : Except Controller.Failure (Option Controller × Diagnostics) :=
  attempt table options.platform decl (noDiagnostics options)

/-- The controller of a class that is processed by itself without an error. -/
def acceptedAlone? (decl : ClassDecl) : Option Controller :=
  match alone table options decl with
  | .error _ => none
  | .ok (controller?, diagnostics) => if diagnostics.hasErrors then none else controller?

/-- What is reported when a class is processed by itself, the error that ends the attempt last. -/
def entriesAlone (decl : ClassDecl) : List Diagnostic :=
  match alone table options decl with
  | .error failure => failure.diagnostics.entries ++ [failure.error.entry]
  | .ok (_, diagnostics) => diagnostics.entries

/-- The controllers that the classes of a list get when each is processed by itself. -/
def acceptedAmong (decls : List ClassDecl) : List Controller :=
  decls.filterMap (acceptedAlone? table options)

/-- Adds the route of a controller. -/
def addRoute (routes : Routes) (controller : Controller) : Routes :=
  routes.insert controller.binaryName (routeOf controller)

/-- A generation to which the candidates of a list contribute what they do by themselves. -/
def contributed (support : Bool) (generation : Generation) (decls : List ClassDecl) :
    Generation where
  units := generation.units
    ++ (acceptedAmong table options decls).map (builderOf table options support)
  controllers := generation.controllers ++ acceptedAmong table options decls
  routes := (acceptedAmong table options decls).foldl addRoute generation.routes
  diagnostics :=
    ⟨options.logWarnings,
      generation.diagnostics.entries ++ decls.flatMap (entriesAlone table options)⟩

end Contribution

/-! ## Steps and runs -/

/-- Errors are counted from where a candidate begins, so earlier ones cancel out. -/
theorem errorCount_after_eq_iff (earlier : List Diagnostic) (diagnostics : Diagnostics)
    (enabled : Bool) :
    (diagnostics.after earlier).errorCount = (Diagnostics.mk enabled earlier).errorCount
      ↔ diagnostics.hasErrors = false := by
  have hafter : (diagnostics.after earlier).errorCount
      = (Diagnostics.mk enabled earlier).errorCount + diagnostics.errorCount := by
    simp only [Diagnostics.errorCount, Diagnostics.count, Diagnostics.entries_after,
      List.countP_append]
  rw [hafter, Diagnostics.hasErrors, decide_eq_false_iff_not]
  omega

section Run

variable (table : ClassTable) (options : Options) (support : Bool)

theorem warningsEnabled_alone (decl : ClassDecl) :
    (attemptDiagnostics (alone table options decl)).warningsEnabled = options.logWarnings :=
  warningsEnabled_attempt table options.platform decl (noDiagnostics options)

/-- An attempt in the course of a run is the attempt by itself behind the entries so far. -/
theorem attempt_eq_alone (earlier : List Diagnostic) (decl : ClassDecl) :
    attempt table options.platform decl ⟨options.logWarnings, earlier⟩
      = attemptAfter earlier (alone table options decl) := by
  have hstart : (Diagnostics.mk options.logWarnings earlier)
      = (noDiagnostics options).after earlier := by
    simp [noDiagnostics, Diagnostics.after]
  rw [hstart]
  exact attempt_after table options.platform decl (noDiagnostics options) earlier

/-- One step adds to a generation what its candidate contributes by itself. -/
theorem step_eq_contributed (generation : Generation) (decl : ClassDecl)
    (henabled : generation.diagnostics.warningsEnabled = options.logWarnings) :
    step table options support generation decl
      = contributed table options support generation [decl] := by
  obtain ⟨units, controllers, routes, enabled, earlier⟩ := generation
  simp only at henabled
  subst henabled
  have hkept := warningsEnabled_alone table options decl
  rw [step, process, contributed, acceptedAmong]
  simp only [attempt_eq_alone]
  cases halone : alone table options decl with
  | error failure =>
    rw [halone] at hkept
    simp only [attemptDiagnostics] at hkept
    simp only [attemptAfter, Controller.Failure.after, Diagnostics.report_after,
      List.filterMap_cons, List.filterMap_nil, acceptedAlone?, entriesAlone, halone,
      List.map_nil, List.append_nil, List.foldl_nil, List.flatMap_cons, List.flatMap_nil]
    rw [← hkept]
    rfl
  | ok result =>
    obtain ⟨controller?, diagnostics⟩ := result
    rw [halone] at hkept
    simp only [attemptDiagnostics] at hkept
    obtain ⟨enabled, entries⟩ := diagnostics
    simp only at hkept
    subst hkept
    -- Only the errors of the attempt itself decide whether the controller is accepted.
    simp only [attemptAfter, errorCount_after_eq_iff, List.filterMap_cons, List.filterMap_nil,
      acceptedAlone?, entriesAlone, halone, List.flatMap_cons, List.flatMap_nil, List.append_nil]
    cases controller? with
    | none => simp [Diagnostics.after]
    | some controller =>
      cases Diagnostics.hasErrors _ <;> simp [Diagnostics.after, accept, addRoute]

/-- A run over candidates adds to a generation what each of them contributes by itself. -/
theorem foldl_step_eq_contributed (decls : List ClassDecl) : ∀ generation : Generation,
    generation.diagnostics.warningsEnabled = options.logWarnings →
      decls.foldl (step table options support) generation
        = contributed table options support generation decls := by
  induction decls with
  | nil =>
    intro generation henabled
    obtain ⟨units, controllers, routes, enabled, earlier⟩ := generation
    simp only at henabled
    subst henabled
    simp [contributed, acceptedAmong]
  | cons decl decls ih =>
    intro generation henabled
    -- The rest of the run starts from what the first candidate leaves behind.
    rw [List.foldl_cons, step_eq_contributed table options support generation decl henabled]
    rw [ih _ rfl]
    simp only [contributed, acceptedAmong, ← List.append_assoc, List.filterMap_cons,
      List.filterMap_nil, List.flatMap_cons, List.flatMap_nil, List.append_nil]
    cases acceptedAlone? table options decl <;> simp

end Run

/-! ## Preliminary entries -/

section Preliminary

variable (table : ClassTable) (options : Options)

/-- Whether support annotations are asked for and available. -/
def usesSupport : Bool := options.supportAnnotations && table.contains (supportProbe options)

/-- The warning about missing support annotations, if there is one. -/
def supportEntries : List Diagnostic :=
  if options.supportAnnotations && !table.contains (supportProbe options) && options.logWarnings
  then [⟨.warning, missingSupport options, none⟩] else []

/-- The errors of arguments outside of controllers. -/
def strayEntries : List Diagnostic :=
  (strayArguments table options.platform).map ProcessingError.entry

/-- The warnings about candidates without a marker. -/
def unmarkedEntries : List Diagnostic :=
  if options.logWarnings then
    (unmarkedCandidates table options.platform).map fun decl =>
      ⟨.warning, missingMarker decl, some decl.name⟩
  else []

theorem foldl_report (errors : List ProcessingError) : ∀ diagnostics : Diagnostics,
    errors.foldl Diagnostics.report diagnostics
      = ⟨diagnostics.warningsEnabled, diagnostics.entries ++ errors.map ProcessingError.entry⟩ := by
  induction errors with
  | nil =>
    intro diagnostics
    simp
  | cons error errors ih =>
    intro diagnostics
    rw [List.foldl_cons, ih, Diagnostics.warningsEnabled_report, Diagnostics.entries_report,
      List.append_assoc]
    rfl

theorem foldl_warnUnmarked (decls : List ClassDecl) : ∀ diagnostics : Diagnostics,
    decls.foldl warnUnmarked diagnostics
      = ⟨diagnostics.warningsEnabled, diagnostics.entries ++
          if diagnostics.warningsEnabled then
            decls.map fun decl => ⟨.warning, missingMarker decl, some decl.name⟩
          else []⟩ := by
  induction decls with
  | nil =>
    intro diagnostics
    simp
  | cons decl decls ih =>
    intro diagnostics
    rw [List.foldl_cons, ih]
    rw [warnUnmarked]
    rw [Diagnostics.warningsEnabled_warning, Diagnostics.entries_warning]
    split <;> simp

theorem checkSupport_eq :
    checkSupport table options (noDiagnostics options)
      = (usesSupport table options, ⟨options.logWarnings, supportEntries table options⟩) := by
  rw [checkSupport, usesSupport, supportEntries, noDiagnostics]
  cases hsupport : options.supportAnnotations with
  | false => simp
  | true =>
    cases hcontains : table.contains (supportProbe options) with
    | true => simp
    | false =>
      cases hwarnings : options.logWarnings <;>
        simp [Diagnostics.warning, Diagnostics.add]

theorem preliminary_eq :
    preliminary table options
      = (usesSupport table options,
          ⟨options.logWarnings, supportEntries table options ++ strayEntries table options
            ++ unmarkedEntries table options⟩) := by
  have hcheck := checkSupport_eq table options
  rw [noDiagnostics] at hcheck
  rw [preliminary]
  simp only [hcheck, foldl_report, foldl_warnUnmarked]
  rfl

end Preliminary

/-! ## Runs -/

theorem candidates_perm (table : ClassTable) (platform : Platform) :
    (candidates table platform).Perm (table.classes.filter (isCandidate table platform)) :=
  List.mergeSort_perm _ _

/-- Candidates are processed in the order of their names. -/
theorem candidates_pairwise (table : ClassTable) (platform : Platform) :
    (candidates table platform).Pairwise fun a b => a.name ≤ b.name := by
  have hsorted : (candidates table platform).Pairwise
      fun a b => decide (a.name ≤ b.name) = true := by
    refine List.pairwise_mergeSort ?_ ?_ _
    · intro a b c hab hbc
      simp only [decide_eq_true_eq] at hab hbc ⊢
      exact String.le_trans hab hbc
    · intro a b
      simp only [Bool.or_eq_true, decide_eq_true_eq]
      exact String.le_total a.name b.name
  exact hsorted.imp fun h => of_decide_eq_true h

/-- A run consists of the preliminary entries and of what each candidate, in the order of the names,
contributes when it is processed by itself: its controller with builder and route if that attempt
reports no error, and its entries. Only the dispatch class depends on more than one candidate. -/
theorem run_isolates_candidates (table : ClassTable) (options : Options) :
    let decls := candidates table options.platform
    let accepted := acceptedAmong table options decls
    let routes := accepted.foldl addRoute .empty
    (decls.Perm (table.classes.filter (isCandidate table options.platform)) ∧
      decls.Pairwise fun a b => a.name ≤ b.name) ∧
    run table options =
      { units := accepted.map (builderOf table options (usesSupport table options)) ++
          if options.library || routes.entries.isEmpty then []
          else [dispatchUnit options.platform routes]
        controllers := accepted
        routes := routes
        diagnostics :=
          ⟨options.logWarnings, supportEntries table options ++ strayEntries table options
            ++ unmarkedEntries table options ++ decls.flatMap (entriesAlone table options)⟩ } := by
  intro decls accepted routes
  refine ⟨⟨candidates_perm table options.platform, candidates_pairwise table options.platform⟩, ?_⟩
  have hrun : run table options
      = addDispatch options (contributed table options (usesSupport table options)
          { diagnostics := ⟨options.logWarnings, supportEntries table options
              ++ strayEntries table options ++ unmarkedEntries table options⟩ } decls) := by
    rw [run]
    rw [preliminary_eq]
    exact congrArg (addDispatch options)
      (foldl_step_eq_contributed table options (usesSupport table options) decls _ rfl)
  rw [hrun]
  have hroutes : (contributed table options (usesSupport table options)
      { diagnostics := ⟨options.logWarnings, supportEntries table options
          ++ strayEntries table options ++ unmarkedEntries table options⟩ } decls).routes
      = routes := rfl
  rw [addDispatch]
  rw [hroutes]
  cases options.library || routes.entries.isEmpty with
  | true =>
    simp only [if_true, contributed, List.nil_append, List.append_nil]
    rfl
  | false =>
    simp only [Bool.false_eq_true, if_false, contributed, List.nil_append]
    rfl

end BundleBuilder.Generation
