import BundleBuilder.Proofs.Controller.Hiding
import BundleBuilder.Proofs.Generation.Output
import BundleBuilder.Proofs.Java.Branches

/-!
# Runs without errors

A class can fail to get a builder for many reasons, and each of them is reported as an error. So a run
that reports no error has forgotten nothing (`run_forgets_nothing`): every concrete class that declares
arguments or carries a marker has one controller, which has all arguments that the class itself
declares, and one builder; and the dispatch class has a branch for every route.
-/

set_option autoImplicit false

namespace BundleBuilder

open Table Java

/-! ## Diagnostics without errors -/

theorem Diagnostics.hasErrors_eq_false_iff {diagnostics : Diagnostics} :
    diagnostics.hasErrors = false ↔ ∀ entry ∈ diagnostics.entries, entry.severity ≠ .error := by
  rw [hasErrors, decide_eq_false_iff_not, errorCount, count, List.countP_pos_iff]
  constructor
  · intro hnone entry hentry herror
    exact hnone ⟨entry, hentry, beq_iff_eq.2 herror⟩
  · rintro hall ⟨entry, hentry, herror⟩
    exact hall entry hentry (beq_iff_eq.1 herror)

namespace Generation

variable {table : ClassTable} {options : Options} {decl : ClassDecl}

theorem mem_argFields_iff {platform : Platform} {field : FieldDecl} :
    field ∈ argFields platform decl ↔
      field ∈ decl.fields ∧ ∃ marker, field.marker? platform.argMarker = some marker := by
  rw [argFields, List.mem_filter, Option.isSome_iff_exists]

/-- Without errors, a class that declares arguments lies below a base class. -/
theorem isController_of_silent (hsilent : (run table options).diagnostics.hasErrors = false)
    (hdecl : decl ∈ table.classes) {field : FieldDecl} (hfield : field ∈ argFields options.platform decl) :
    isController table options.platform decl.name = true := by
  by_contra hstray
  -- The field would have been reported before any candidate was looked at.
  have hreported : ∃ error ∈ strayArguments table options.platform, error.entry.severity = .error := by
    have hoff : (!isController table options.platform decl.name) = true := by
      rw [Bool.eq_false_iff.2 hstray]
      rfl
    exact ⟨_, List.mem_flatMap.2 ⟨decl, List.mem_filter.2 ⟨hdecl, hoff⟩, List.mem_map_of_mem hfield⟩, rfl⟩
  obtain ⟨error, herror, hseverity⟩ := hreported
  refine Diagnostics.hasErrors_eq_false_iff.1 hsilent error.entry ?_ hseverity
  rw [entries_run]
  refine List.mem_append_left _ (List.mem_append_left _ (List.mem_append_right _ ?_))
  exact List.mem_map_of_mem herror

/-- Without errors, a class that declares arguments or carries a marker is a candidate. -/
theorem mem_candidates_of_silent (hsilent : (run table options).diagnostics.hasErrors = false)
    (hdecl : decl ∈ table.classes)
    (hasked : argFields options.platform decl ≠ [] ∨ isMarked options.platform decl = true) :
    decl ∈ candidates table options.platform := by
  refine (candidates_perm table options.platform).mem_iff.2 (List.mem_filter.2 ⟨hdecl, ?_⟩)
  rw [isCandidate, Bool.or_eq_true, Bool.and_eq_true]
  rcases hasked with hfields | hmarked
  · obtain ⟨field, hfield⟩ := List.exists_mem_of_ne_nil _ hfields
    refine .inr ⟨?_, isController_of_silent hsilent hdecl hfield⟩
    rw [Bool.not_eq_true', List.isEmpty_eq_false_iff]
    exact hfields
  · exact .inl hmarked

/-- Without errors, a concrete candidate gets the controller that was collected for it, and nothing was
reported on the way. -/
theorem accepted_of_silent (hsilent : (run table options).diagnostics.hasErrors = false)
    (hcandidate : decl ∈ candidates table options.platform) (hconcrete : decl.isAbstract = false) :
    ∃ collection, Controller.collect table options.platform decl (noDiagnostics options) = .ok collection ∧
      collection.diagnostics.hasErrors = false ∧
      acceptedAlone? table options decl = some collection.controller := by
  have hentries : ∀ entry ∈ entriesAlone table options decl, entry.severity ≠ .error := by
    intro entry hentry
    refine Diagnostics.hasErrors_eq_false_iff.1 hsilent entry ?_
    rw [entries_run]
    exact List.mem_append_right _ (List.mem_flatMap.2 ⟨decl, hcandidate, hentry⟩)
  rw [entriesAlone] at hentries
  cases halone : alone table options decl with
  | error failure =>
    rw [halone] at hentries
    exact absurd rfl (hentries failure.error.entry (List.mem_append_right _ List.mem_cons_self))
  | ok result =>
    obtain ⟨controller?, diagnostics⟩ := result
    rw [halone] at hentries
    have hnone : diagnostics.hasErrors = false := Diagnostics.hasErrors_eq_false_iff.2 hentries
    obtain ⟨-, ⟨habstract, -⟩ | ⟨-, collection, hcollect, rfl, rfl⟩⟩ := attempt_cases halone
    · rw [hconcrete] at habstract
      cases habstract
    · exact ⟨collection, hcollect, hnone, accepted_of_alone halone hnone⟩

end Generation

namespace Controller

/-- A collection without errors has all arguments that its own class declares, under their variable
names. -/
theorem exists_own_argument {table : ClassTable} {platform : Platform} {decl : ClassDecl}
    {enabled : Bool} {collection : Collection}
    (hcollect : collect table platform decl ⟨enabled, []⟩ = .ok collection)
    (hsilent : collection.diagnostics.hasErrors = false) {field : FieldDecl}
    (hfield : field ∈ Generation.argFields platform decl) :
    ∃ argument, collection.controller.field? (unmarkedName field.name) = some argument ∧
      argument.name = field.name ∧ argument.className = decl.name := by
  obtain ⟨hdeclared, marker, hmarker⟩ := Generation.mem_argFields_iff.1 hfield
  have htracks := tracks_of_collect hcollect
  have hnone : errorsAmong collection.diagnostics.entries = errorsAmong [] := by
    refine List.filter_eq_nil_iff.2 fun entry hentry herror => ?_
    exact Diagnostics.hasErrors_eq_false_iff.1 hsilent entry hentry (of_decide_eq_true herror)
  -- The class is the first of its own levels, so the field was offered to the selection.
  have hoffered : MarkedField.mk ⟨decl, []⟩ field marker ∈ markedFields platform
      (Level.ofController table platform decl (scanInherited platform decl ⟨enabled, []⟩).1) := by
    refine mem_markedFields_iff.2 ⟨List.mem_of_head? ?_, hdeclared, hmarker⟩
    exact Level.head?_ofController table platform decl _
  rcases mem_kept_or_dropped (.inr (.inr hoffered)) with hkept | hdropped
  · obtain ⟨argument, hargument, hdeclares⟩ := htracks.exists_argument hkept
    have hfound := (htracks.built.consistent.mem_arguments_iff).1 hargument
    rw [ArgField.variableName, hdeclares.name] at hfound
    exact ⟨argument, hfound, hdeclares.name, hdeclares.className⟩
  · rw [← select, htracks.dropped_eq_nil hnone] at hdropped
    cases hdropped

end Controller

namespace Generation

/-! ## Routes -/

variable {table : ClassTable} {options : Options}

/-- A route that was added stays when further routes are. -/
theorem contains_addRoutes {name : String} (controllers : List Controller) : ∀ routes : Routes,
    routes.contains name = true ∨ name ∈ controllers.map Controller.binaryName →
      (controllers.foldl addRoute routes).contains name = true := by
  induction controllers with
  | nil =>
    rintro routes (hold | hnew)
    · exact hold
    · cases hnew
  | cons controller controllers ih =>
    intro routes h
    refine ih _ ?_
    rw [addRoute, SortedTable.contains, SortedTable.find?_insert]
    by_cases hname : name = controller.binaryName
    · rw [if_pos hname]
      exact .inl rfl
    · rw [if_neg hname]
      exact h.imp id fun hnew => (List.mem_cons.1 hnew).resolve_left hname

theorem exists_route {controller : Controller} (h : controller ∈ (run table options).controllers) :
    (run table options).routes.contains controller.binaryName = true := by
  rw [routes_run]
  exact contains_addRoutes _ _ (.inr (List.mem_map_of_mem h))

/-! ## Runs -/

/-- The controllers of a run without errors: one for each concrete class that declares arguments or
carries a marker, with all arguments that the class declares. -/
theorem exists_controller_of_silent {decl : ClassDecl}
    (hsilent : (run table options).diagnostics.hasErrors = false) (hdecl : decl ∈ table.classes)
    (hconcrete : decl.isAbstract = false)
    (hasked : argFields options.platform decl ≠ [] ∨ isMarked options.platform decl = true) :
    ∃ controller ∈ (run table options).controllers, controller.qualifiedName = decl.name ∧
      ∀ field ∈ argFields options.platform decl, ∃ argument,
        controller.field? (unmarkedName field.name) = some argument ∧
          argument.name = field.name ∧ argument.className = decl.name := by
  have hcandidate := mem_candidates_of_silent hsilent hdecl hasked
  obtain ⟨collection, hcollect, hnone, haccepted⟩ := accepted_of_silent hsilent hcandidate hconcrete
  refine ⟨collection.controller, ?_, qualifiedName_of_accepted haccepted, ?_⟩
  · rw [controllers_run]
    exact List.mem_filterMap.2 ⟨decl, hcandidate, haccepted⟩
  · intro field hfield
    exact Controller.exists_own_argument hcollect hnone hfield

/-- A run that reports no error forgets nothing. Every concrete class that declares arguments or carries
a marker has exactly one controller, with all arguments that the class itself declares; the units are
one builder for each controller and the dispatch class; and this has a branch for every route, among
them one for every controller, unless it is left out or there is no controller. -/
theorem run_forgets_nothing (table : ClassTable) (options : Options)
    (hsilent : (run table options).diagnostics.hasErrors = false) :
    let generation := run table options
    let routes := generation.routes
    (∀ decl ∈ table.classes, decl.isAbstract = false →
      argFields options.platform decl ≠ [] ∨ isMarked options.platform decl = true →
        (generation.controllers.map Controller.qualifiedName).count decl.name = 1 ∧
          ∃ controller ∈ generation.controllers, controller.qualifiedName = decl.name ∧
            ∀ field ∈ argFields options.platform decl, ∃ argument,
              controller.field? (unmarkedName field.name) = some argument ∧
                argument.name = field.name ∧ argument.className = decl.name) ∧
    generation.units
      = generation.controllers.map (builderOf table options (usesSupport table options))
        ++ dispatchUnits options routes ∧
    (options.library = false → generation.controllers ≠ [] →
      dispatchUnits options routes = [dispatchUnit options.platform routes] ∧
        (dispatchUnit options.platform routes).source
          = textOf (linesFrom 0 (dispatchHead options.platform)
              ++ routes.entries.flatMap branchLines ++ linesFrom 2 [.closing, .closing]) ∧
        ∀ controller ∈ generation.controllers, routes.contains controller.binaryName = true) := by
  intro generation routes
  refine ⟨?_, units_run table options, ?_⟩
  · intro decl hdecl hconcrete hasked
    have hexists := exists_controller_of_silent hsilent hdecl hconcrete hasked
    refine ⟨?_, hexists⟩
    obtain ⟨controller, hcontroller, hname, -⟩ := hexists
    refine List.count_eq_one_of_mem (qualifiedNames_nodup table options) ?_
    exact List.mem_map.2 ⟨controller, hcontroller, hname⟩
  · intro hlibrary hcontrollers
    obtain ⟨controller, hcontroller⟩ := List.exists_mem_of_ne_nil _ hcontrollers
    have hroute := exists_route hcontroller
    have hentries : routes.entries ≠ [] := by
      intro hnone
      rw [SortedTable.contains, SortedTable.find?, hnone] at hroute
      cases hroute
    have hunits : dispatchUnits options routes = [dispatchUnit options.platform routes] := by
      refine if_neg ?_
      rw [hlibrary, Bool.false_or, List.isEmpty_iff]
      exact hentries
    exact ⟨hunits, source_dispatchUnit _ _, fun controller h => exists_route h⟩

/-! ### One controller -/

/-- A controller class with one argument. -/
def soloDecl : ClassDecl :=
  { name := "Screen", superclass? := some (.named "android.app.Fragment"),
    fields := [Controller.markedInt "mId" []] }

/-- This class alone. -/
def soloTable : ClassTable := ClassTable.empty.insertAll [soloDecl]

theorem isController_solo : isController soloTable {} soloDecl.name = true :=
  isController_of_superclass rfl rfl List.mem_cons_self

/-- Warnings are not kept. -/
def quiet : Options := { logWarnings := false }

theorem silent_solo : (run soloTable quiet).diagnostics.hasErrors = false := by
  have hstray : strayArguments soloTable {} = [] := by
    have hoff : (!isController soloTable {} soloDecl.name) = false :=
      congrArg not isController_solo
    have hnone : (soloTable.classes.filter fun decl => !isController soloTable {} decl.name) = [] := by
      show [soloDecl].filter _ = []
      rw [List.filter_cons, hoff]
      rfl
    rw [strayArguments, hnone]
    rfl
  have hbefore : preliminaryEntries soloTable quiet = [] := by
    show [] ++ (strayArguments soloTable {}).map ProcessingError.entry ++ [] = []
    rw [hstray]
    rfl
  obtain ⟨collection, halone, hnone⟩ := @exists_alone_of_scan soloTable quiet soloDecl
    isController_solo rfl (by decide +kernel) rfl (by decide +kernel)
  rw [Diagnostics.hasErrors_eq_false_iff, entries_run, hbefore, List.nil_append]
  intro entry hentry
  obtain ⟨decl, hdecl, hown⟩ := List.mem_flatMap.1 hentry
  have hmem : decl ∈ soloTable.classes :=
    (List.mem_filter.1 ((candidates_perm soloTable {}).mem_iff.1 hdecl)).1
  obtain rfl : decl = soloDecl := List.mem_singleton.1 hmem
  rw [entriesAlone, halone] at hown
  exact Diagnostics.hasErrors_eq_false_iff.1 hnone entry hown

/-- The run over this class reports no error, and its controller has the argument. -/
theorem run_forgets_nothing_solo :
    (run soloTable quiet).diagnostics.hasErrors = false ∧
      ∃ controller ∈ (run soloTable quiet).controllers, controller.qualifiedName = "Screen" ∧
        ∃ argument, controller.field? "id" = some argument ∧ argument.className = "Screen" := by
  obtain ⟨hclasses, -, -⟩ := run_forgets_nothing soloTable quiet silent_solo
  have hasked : argFields quiet.platform soloDecl ≠ [] := by decide +kernel
  obtain ⟨-, controller, hcontroller, hname, hfields⟩ :=
    hclasses soloDecl List.mem_cons_self rfl (.inl hasked)
  have hfield : Controller.markedInt "mId" [] ∈ argFields quiet.platform soloDecl := by decide +kernel
  obtain ⟨argument, hargument, -, hclass⟩ := hfields _ hfield
  exact ⟨silent_solo, controller, hcontroller, hname, argument, hargument, hclass⟩

end Generation

end BundleBuilder
