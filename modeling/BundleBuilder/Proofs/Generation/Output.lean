import BundleBuilder.Proofs.Controller.Selection
import BundleBuilder.Proofs.ClassTable.Reachability
import BundleBuilder.Proofs.ClassTable.Reinsertion
import BundleBuilder.Proofs.Generation.Agreement

/-!
# What a run puts out

A run puts out the controllers of the candidates that were processed without an error, in the order of
the candidates' names, one builder unit for each of them, and behind these the dispatch unit, unless it
is left out. No two controllers have the same name (`qualifiedNames_nodup`), and each has the names of
its class.
-/

set_option autoImplicit false

namespace BundleBuilder.Generation

open Table Java

variable (table : ClassTable) (options : Options)

/-- The unit of the dispatch class, unless it is left out or has no routes. -/
def dispatchUnits (options : Options) (routes : Routes) : List SourceUnit :=
  if options.library || routes.entries.isEmpty then []
  else [dispatchUnit options.platform routes]

theorem controllers_addDispatch (generation : Generation) :
    (addDispatch options generation).controllers = generation.controllers := by
  rw [addDispatch]
  split <;> rfl

theorem routes_addDispatch (generation : Generation) :
    (addDispatch options generation).routes = generation.routes := by
  rw [addDispatch]
  split <;> rfl

theorem diagnostics_addDispatch (generation : Generation) :
    (addDispatch options generation).diagnostics = generation.diagnostics := by
  rw [addDispatch]
  split <;> rfl

theorem units_addDispatch (generation : Generation) :
    (addDispatch options generation).units
      = generation.units ++ dispatchUnits options generation.routes := by
  rw [addDispatch, dispatchUnits]
  split
  · exact (List.append_nil _).symm
  · rfl

/-- The controllers of a run are those of the candidates that are accepted. -/
theorem controllers_run :
    (run table options).controllers
      = acceptedAmong table options (candidates table options.platform) := by
  rw [run_eq_contributed, controllers_addDispatch]
  exact List.nil_append _

/-- The routes of a run lead to its controllers. -/
theorem routes_run :
    (run table options).routes = (run table options).controllers.foldl addRoute .empty := by
  rw [controllers_run, run_eq_contributed, routes_addDispatch]
  rfl

/-- The units of a run are one builder for each controller and the dispatch class. -/
theorem units_run :
    (run table options).units
      = (run table options).controllers.map (builderOf table options (usesSupport table options))
        ++ dispatchUnits options (run table options).routes := by
  rw [controllers_run, routes_run, controllers_run, run_eq_contributed, units_addDispatch]
  rfl

/-- The diagnostics of a run are the preliminary entries and then those of the candidates. -/
theorem diagnostics_run :
    (run table options).diagnostics
      = ⟨options.logWarnings, preliminaryEntries table options
        ++ (candidates table options.platform).flatMap (entriesAlone table options)⟩ := by
  rw [run_eq_contributed, diagnostics_addDispatch]
  rfl

theorem entries_run :
    (run table options).diagnostics.entries
      = preliminaryEntries table options
        ++ (candidates table options.platform).flatMap (entriesAlone table options) := by
  rw [diagnostics_run]

/-! ## Controllers and their classes -/

variable {table options}

/-- An attempt that is not ended by an error: the class lies below a base class; it is abstract and has
no controller, or it has no error of its own and its arguments were collected. -/
theorem attempt_cases {platform : Platform} {decl : ClassDecl} {before after : Diagnostics}
    {controller? : Option Controller}
    (h : attempt table platform decl before = .ok (controller?, after)) :
    isController table platform decl.name = true ∧
      ((decl.isAbstract = true ∧ controller? = none) ∨
        decl.isAbstract = false ∧ ∃ collection,
          Controller.collect table platform decl before = .ok collection ∧
            controller? = some collection.controller ∧ after = collection.diagnostics) := by
  unfold attempt at h
  split at h
  · cases h
  · next hcontroller =>
    refine ⟨by simpa using hcontroller, ?_⟩
    split at h
    · next habstract =>
      cases h
      exact .inl ⟨habstract, rfl⟩
    · next hconcrete =>
      refine .inr ⟨by simpa using hconcrete, ?_⟩
      split at h
      · cases h
      · split at h
        · cases h
        · next collection hcollect =>
          cases h
          exact ⟨collection, hcollect, rfl, rfl⟩

/-- A controller is accepted if the attempt reported no error. -/
theorem accepted_of_alone {decl : ClassDecl} {controller? : Option Controller}
    {diagnostics : Diagnostics} (halone : alone table options decl = .ok (controller?, diagnostics))
    (hnone : diagnostics.hasErrors = false) : acceptedAlone? table options decl = controller? := by
  rw [acceptedAlone?, halone]
  exact if_neg (Bool.eq_false_iff.1 hnone)

/-- A controller that is accepted was built for the class. -/
theorem built_of_accepted {decl : ClassDecl} {controller : Controller}
    (h : acceptedAlone? table options decl = some controller) :
    ∃ inherited, Controller.Built decl inherited controller := by
  unfold acceptedAlone? at h
  split at h
  · cases h
  · next controller? diagnostics halone =>
    split at h
    · cases h
    · subst h
      obtain ⟨-, ⟨-, hnone⟩ | ⟨-, collection, hcollect, hcontroller, -⟩⟩ := attempt_cases halone
      · cases hnone
      · cases hcontroller
        exact ⟨_, (Controller.tracks_of_collect hcollect).built⟩

theorem qualifiedName_of_accepted {decl : ClassDecl} {controller : Controller}
    (h : acceptedAlone? table options decl = some controller) :
    controller.qualifiedName = decl.name := by
  obtain ⟨inherited, hbuilt⟩ := built_of_accepted h
  exact hbuilt.view_eq Controller.qualifiedName fun _ _ _ _ _ _ => rfl

/-- The controllers of classes have the names of some of these classes, in their order. -/
theorem qualifiedNames_sublist (decls : List ClassDecl) :
    ((acceptedAmong table options decls).map Controller.qualifiedName).Sublist
      (decls.map ClassDecl.name) := by
  induction decls with
  | nil => exact .slnil
  | cons decl decls ih =>
    rw [acceptedAmong, List.filterMap_cons, List.map_cons]
    cases haccepted : acceptedAlone? table options decl with
    | none => exact ih.cons _
    | some controller =>
      rw [List.map_cons, qualifiedName_of_accepted haccepted]
      exact ih.cons_cons _

theorem candidates_names_nodup (table : ClassTable) (platform : Platform) :
    ((candidates table platform).map ClassDecl.name).Nodup := by
  have hclasses : (table.classes.map ClassDecl.name).Nodup := by
    rw [ClassTable.map_name_classes]
    exact table.byName.keys_nodup
  have hperm := (candidates_perm table platform).map ClassDecl.name
  rw [hperm.nodup_iff]
  exact hclasses.sublist (List.filter_sublist.map _)

/-- No two controllers of a run have the same name. -/
theorem qualifiedNames_nodup (table : ClassTable) (options : Options) :
    ((run table options).controllers.map Controller.qualifiedName).Nodup := by
  rw [controllers_run]
  exact (candidates_names_nodup table options.platform).sublist (qualifiedNames_sublist _)

/-- Every controller of a run was built for a class of the table. -/
theorem exists_built_of_mem {controller : Controller}
    (h : controller ∈ (run table options).controllers) :
    ∃ decl ∈ table.classes, ∃ inherited, Controller.Built decl inherited controller := by
  rw [controllers_run] at h
  obtain ⟨decl, hdecl, haccepted⟩ := List.mem_filterMap.1 h
  have hmem := (candidates_perm table options.platform).mem_iff.1 hdecl
  exact ⟨decl, (List.mem_filter.1 hmem).1, built_of_accepted haccepted⟩

/-! ## Classes directly below a base class -/

/-- A class that extends a base class is a controller. -/
theorem isController_of_superclass {platform : Platform} {decl : ClassDecl} {base : String}
    (hfind : table.find? decl.name = some decl) (hsuper : decl.superclass? = some (.named base))
    (hbase : base ∈ platform.controllerBases) : isController table platform decl.name = true := by
  have hstep : table.InheritsFrom decl.name base := ⟨decl, hfind, _, .superclass hsuper, rfl⟩
  have hbelow : table.isSubclass decl.name base = true := by
    rw [ClassTable.isSubclass, Bool.or_eq_true]
    exact .inr (ClassTable.supertypeAs?_isSome (.single hstep) [])
  exact List.any_eq_true.2 ⟨base, hbase, hbelow⟩

/-- A concrete controller class without a parent to climb to gets the controller that a scan of its own
fields finds, if no argument needs a setter and no error is reported. -/
theorem exists_alone_of_scan {decl : ClassDecl}
    (hcontroller : isController table options.platform decl.name = true)
    (hconcrete : decl.isAbstract = false) (hclass : classError? decl = none)
    (htop : Level.parent? table options.platform ⟨decl, []⟩ = none)
    (hscan : (Controller.scanLevels table options.platform
        ⟨Controller.ofClass decl
            (Controller.scanInherited options.platform decl (noDiagnostics options)).1,
          (Controller.scanInherited options.platform decl (noDiagnostics options)).2⟩
        [⟨decl, []⟩]).toOption.any (fun scanned =>
          scanned.controller.arguments.all (fun field => !scanned.controller.needsSetter field) &&
            !scanned.diagnostics.hasErrors) = true) :
    ∃ collection : Controller.Collection,
      alone table options decl = .ok (some collection.controller, collection.diagnostics) ∧
        collection.diagnostics.hasErrors = false := by
  obtain ⟨collection, hcollect, hnone⟩ := Controller.exists_collect_of_scan (noDiagnostics options)
    (Level.ofController_of_top _ _ decl _ htop) (fun scanned => !scanned.diagnostics.hasErrors) hscan
  refine ⟨collection, ?_, by simpa using hnone⟩
  rw [alone, attempt, hcontroller, hconcrete, hclass, hcollect]
  rfl

end BundleBuilder.Generation
