import BundleBuilder.CommandLine
import BundleBuilder.Proofs.Catalog.Gathering
import BundleBuilder.Proofs.Generation.Output
import BundleBuilder.Proofs.Java.UnitPaths

/-!
# No unit gets in the way of another

The controllers of a run have distinct names. If the segments of all class names are plain then nothing
is lost by the ways in which a class name is written in a running program, in the name of a builder and
in the path of its file. So no branch of the dispatch class and no file takes the place of another one
(`outputs_distinct`).
-/

set_option autoImplicit false

namespace BundleBuilder

open Table Java Files

/-! ## The names of controllers -/

/-- A controller has the names of a class. -/
structure Controller.HasNamesOf (controller : Controller) (decl : ClassDecl) : Prop where
  qualifiedName : controller.qualifiedName = decl.name
  package : controller.package = decl.package
  binaryName : controller.binaryName = decl.binaryName
  builderName : controller.builderName = decl.builderName

theorem Controller.Built.hasNamesOf {decl : ClassDecl} {inherited : Bool} {controller : Controller}
    (h : Controller.Built decl inherited controller) : controller.HasNamesOf decl where
  qualifiedName := h.view_eq Controller.qualifiedName fun _ _ _ _ _ _ => rfl
  package := h.package_eq
  binaryName := h.view_eq Controller.binaryName fun _ _ _ _ _ _ => rfl
  builderName := h.view_eq Controller.builderName fun _ _ _ _ _ _ => rfl

theorem Controller.HasNamesOf.qualifiedBuilderName {controller : Controller} {decl : ClassDecl}
    (h : controller.HasNamesOf decl) :
    controller.qualifiedBuilderName = decl.inPackage decl.builderName := by
  rw [Controller.qualifiedBuilderName, h.package, h.builderName]
  rfl

namespace Generation

variable {table : ClassTable} {options : Options}

/-- The unit of the builder of a controller has the names of the class. -/
theorem names_builderOf (support : Bool) {controller : Controller} {decl : ClassDecl}
    (h : controller.HasNamesOf decl) :
    (builderOf table options support controller).qualifiedName = decl.inPackage decl.builderName ∧
      (builderOf table options support controller).package = decl.package ∧
      (builderOf table options support controller).simpleName = decl.builderName := by
  rw [builderOf, builderUnit]
  dsimp only
  rw [BuilderScope.controller_ofController]
  exact ⟨h.qualifiedBuilderName, h.package, h.builderName⟩

theorem exists_class_of_mem {controller : Controller}
    (h : controller ∈ (run table options).controllers) :
    ∃ decl ∈ table.classes, controller.HasNamesOf decl := by
  obtain ⟨decl, hdecl, inherited, hbuilt⟩ := exists_built_of_mem h
  exact ⟨decl, hdecl, hbuilt.hasNamesOf⟩

/-- The place to which a unit is written below an output directory. -/
def unitPlace (directory : Place) (output : String) (unit : SourceUnit) : Place :=
  destination directory (appendPath output unit.relativePath)

/-! ## What is distinct -/

section Plain

variable (hplain : ∀ decl ∈ table.classes, decl.IsPlain)

include hplain

/-- A view of controllers is distinct for all controllers if it is a view of their classes that
determines the name. -/
theorem nodup_map_controllers {α : Type} {view : Controller → α} (ofClass : ClassDecl → α)
    (hview : ∀ {controller decl}, decl.IsPlain → controller.HasNamesOf decl →
      view controller = ofClass decl)
    (hclass : ∀ {decl other : ClassDecl}, decl.IsPlain → other.IsPlain →
      ofClass decl = ofClass other → decl.name = other.name) :
    ((run table options).controllers.map view).Nodup := by
  have hnames := qualifiedNames_nodup table options
  refine (List.Nodup.of_map _ hnames).map_on fun first hfirst second hsecond heq => ?_
  obtain ⟨decl, hdecl, hfirstNames⟩ := exists_class_of_mem hfirst
  obtain ⟨other, hother, hsecondNames⟩ := exists_class_of_mem hsecond
  -- Controllers of one name are the same, so it is enough to compare the names of the classes.
  refine List.inj_on_of_nodup_map hnames hfirst hsecond ?_
  rw [hview (hplain decl hdecl) hfirstNames, hview (hplain other hother) hsecondNames] at heq
  rw [hfirstNames.qualifiedName, hsecondNames.qualifiedName]
  exact hclass (hplain decl hdecl) (hplain other hother) heq

/-- A view of units is distinct for all units if it is such a view for builders, and another one for
the dispatch class. -/
theorem nodup_map_units {α : Type} {view : SourceUnit → α} (ofClass : ClassDecl → α)
    (hview : ∀ {unit : SourceUnit} {decl : ClassDecl}, decl.IsPlain →
      unit.qualifiedName = decl.inPackage decl.builderName → unit.package = decl.package →
        unit.simpleName = decl.builderName → view unit = ofClass decl)
    (hclass : ∀ {decl other : ClassDecl}, decl.IsPlain → other.IsPlain →
      ofClass decl = ofClass other → decl.name = other.name)
    (hdispatch : ∀ {decl : ClassDecl}, decl.IsPlain →
      ofClass decl ≠ view (dispatchUnit options.platform (run table options).routes)) :
    ((run table options).units.map view).Nodup := by
  have hbuilder : ∀ {controller : Controller} {decl : ClassDecl}, decl.IsPlain →
      controller.HasNamesOf decl →
        view (builderOf table options (usesSupport table options) controller) = ofClass decl := by
    intro controller decl hdecl hnames
    obtain ⟨hqualified, hpackage, hsimple⟩ := names_builderOf (usesSupport table options) hnames
    exact hview hdecl hqualified hpackage hsimple
  rw [units_run, List.map_append, List.map_map, List.nodup_append]
  -- At most one unit is no builder, and what is assumed about the dispatch class sets it apart.
  refine ⟨nodup_map_controllers hplain ofClass hbuilder hclass, ?_, ?_⟩
  · rw [dispatchUnits]
    split
    · exact List.nodup_nil
    · exact List.nodup_singleton _
  · rintro value hvalue other hother rfl
    obtain ⟨controller, hcontroller, rfl⟩ := List.mem_map.1 hvalue
    obtain ⟨decl, hdecl, hnames⟩ := exists_class_of_mem hcontroller
    rw [Function.comp_apply, hbuilder (hplain decl hdecl) hnames, dispatchUnits] at hother
    split at hother
    · cases hother
    · exact hdispatch (hplain decl hdecl) (List.mem_singleton.1 hother)

theorem binaryNames_nodup (options : Options) :
    ((run table options).controllers.map Controller.binaryName).Nodup :=
  nodup_map_controllers hplain ClassDecl.binaryName (fun _ hnames => hnames.binaryName)
    ClassDecl.name_eq_of_binaryName

theorem qualifiedBuilderNames_nodup (options : Options) :
    ((run table options).controllers.map Controller.qualifiedBuilderName).Nodup :=
  nodup_map_controllers hplain (fun decl => decl.inPackage decl.builderName)
    (fun _ hnames => hnames.qualifiedBuilderName) ClassDecl.name_eq_of_qualifiedBuilder

section Injector

variable (hinjector : ∀ front, options.platform.injectorSimpleName ≠ front ++ "Builder")

include hinjector

/-- No two units have classes of one qualified name. -/
theorem unitNames_nodup : ((run table options).units.map SourceUnit.qualifiedName).Nodup := by
  refine nodup_map_units hplain (fun decl => decl.inPackage decl.builderName)
    (fun _ hqualified _ _ => hqualified) ClassDecl.name_eq_of_qualifiedBuilder ?_
  intro decl hdecl heq
  have hsimple := congrArg Text.simpleName heq
  rw [ClassDecl.simpleName_inPackage (ClassDecl.dot_not_mem_builderName hdecl)] at hsimple
  exact hinjector _ hsimple.symm

/-- No two units have files of one path below the output directory. -/
theorem unitPaths_nodup :
    ((run table options).units.map fun unit => pathParts unit.relativePath).Nodup := by
  refine nodup_map_units hplain builderPlace (fun hdecl _ hpackage hsimple => ?_)
    name_eq_of_builderPlace ?_
  · rw [relativePath_builder hdecl hpackage hsimple]
    exact pathParts_join (isProperPlace_builderPlace hdecl) (builderPlace_ne_nil _)
  · intro decl hdecl heq
    obtain ⟨last, hproper, hlast, hother⟩ := @exists_last_of_other
      (dispatchUnit options.platform (run table options).routes) hinjector
    have hparts := getLast?_pathParts hproper hlast
    rw [← heq, builderPlace, List.getLast?_concat] at hparts
    exact hother decl (Option.some.inj hparts).symm

/-- No two units are written to one place. -/
theorem unitPlaces_nodup (directory : Place) (output : String) :
    ((run table options).units.map fun unit => pathOf (unitPlace directory output unit)).Nodup := by
  -- All builders lie behind one place, so the names behind it tell them apart.
  obtain ⟨place, hplace⟩ := exists_destination directory output
  refine nodup_map_units hplain (fun decl => pathOf (place ++ builderPlace decl))
    (fun hdecl _ hpackage hsimple => ?_) (fun hdecl hother heq => ?_) ?_
  · rw [unitPlace, relativePath_builder hdecl hpackage hsimple,
      hplace _ (isProperPlace_builderPlace hdecl) (builderPlace_ne_nil _)]
  · refine name_eq_of_builderPlace hdecl hother (parts_eq_of_pathOf (builderPlace_ne_nil _)
      (builderPlace_ne_nil _) ?_ ?_ heq)
    · exact fun name hname => (isProperPlace_builderPlace hdecl name hname).2.2.2
    · exact fun name hname => (isProperPlace_builderPlace hother name hname).2.2.2
  · intro decl hdecl heq
    obtain ⟨last, hproper, hlast, hother⟩ := @exists_last_of_other
      (dispatchUnit options.platform (run table options).routes) hinjector
    obtain ⟨before, hbefore⟩ := exists_destination_of_last directory output hproper hlast
    rw [unitPlace, hbefore, builderPlace, ← List.append_assoc] at heq
    have hfile := isProperName_java (ClassDecl.slash_not_mem_builderName hdecl)
    exact hother decl (name_eq_of_pathOf hfile.2.2.2 hproper.2.2.2 heq).symm

end Injector

end Plain

/-! ## Routes -/

/-- Routes of controllers with new binary names are added to those that were there. -/
theorem entries_addRoutes {controllers : List Controller} : ∀ {routes : Routes},
    (controllers.map Controller.binaryName).Nodup →
      (∀ controller ∈ controllers, routes.find? controller.binaryName = none) →
        (controllers.foldl addRoute routes).entries.Perm
          (routes.entries ++ controllers.map fun controller =>
            (controller.binaryName, routeOf controller)) := by
  induction controllers with
  | nil =>
    intro routes _ _
    rw [List.map_nil, List.append_nil]
    exact .refl _
  | cons controller controllers ih =>
    intro routes hnodup hnew
    obtain ⟨hfirst, hrest⟩ := List.nodup_cons.1 hnodup
    obtain ⟨hnone, hothers⟩ := List.forall_mem_cons.1 hnew
    have hadded : (addRoute routes controller).entries.Perm
        ((controller.binaryName, routeOf controller) :: routes.entries) :=
      putSorted_perm_of_lookup_none _ hnone
    have hstill : ∀ other ∈ controllers, (addRoute routes controller).find? other.binaryName = none := by
      intro other hother
      have hne : other.binaryName ≠ controller.binaryName := fun heq =>
        hfirst (heq ▸ List.mem_map_of_mem hother)
      rw [addRoute, SortedTable.find?_insert, if_neg hne]
      exact hothers other hother
    exact (ih hrest hstill).trans ((hadded.append_right _).trans List.perm_middle.symm)

/-- The routes lead from the binary name of each controller to the controller and its builder. -/
theorem routes_perm (hplain : ∀ decl ∈ table.classes, decl.IsPlain) (options : Options) :
    (run table options).routes.entries.Perm ((run table options).controllers.map fun controller =>
      (controller.binaryName, routeOf controller)) := by
  rw [routes_run]
  exact entries_addRoutes (binaryNames_nodup hplain options) fun _ _ =>
    SortedTable.find?_empty _

/-! ## Writing -/

/-- Writing units without an error writes the first one and then the others. -/
theorem exists_of_writeUnits_cons {tree after : Tree} {directory : Place} {output : String}
    {unit : SourceUnit} {units : List SourceUnit} {written : List String}
    (h : CommandLine.writeUnits tree directory output (unit :: units) = (after, written, none)) :
    ∃ middle paths,
      tree.write? directory (appendPath output unit.relativePath) (some unit.source) = some middle ∧
        CommandLine.writeUnits middle directory output units = (after, paths, none) := by
  unfold CommandLine.writeUnits at h
  dsimp only at h
  split at h
  · cases h
  · next middle hwrite =>
    generalize hlater : CommandLine.writeUnits middle directory output units = result at h
    obtain ⟨last, paths, error?⟩ := result
    cases h
    exact ⟨middle, paths, hwrite, hlater⟩

/-- Units that are written to distinct places are there in the end, and their paths lead to them. -/
theorem written_of_writeUnits {directory : Place} {output : String} {units : List SourceUnit} :
    ∀ {tree after : Tree} {written : List String},
      CommandLine.writeUnits tree directory output units = (after, written, none) →
      (units.map fun unit => pathOf (unitPlace directory output unit)).Nodup →
      tree.KeepsDirectories after ∧
        (∀ place contents?,
          pathOf place ∉ units.map (fun unit => pathOf (unitPlace directory output unit)) →
            tree.entry? place = some (.file contents?) →
              after.entry? place = some (.file contents?)) ∧
        ∀ unit ∈ units,
          after.locate? directory (appendPath output unit.relativePath)
              = some (unitPlace directory output unit) ∧
            after.entry? (unitPlace directory output unit) = some (.file (some unit.source)) := by
  induction units with
  | nil =>
    intro tree after written h _
    cases h
    exact ⟨fun _ => id, fun _ _ _ => id, fun unit hunit => absurd hunit List.not_mem_nil⟩
  | cons unit units ih =>
    intro tree after written h hnodup
    rw [List.map_cons, List.nodup_cons] at hnodup
    obtain ⟨hfirst, hrest⟩ := hnodup
    obtain ⟨middle, paths, hwrite, hlater⟩ := exists_of_writeUnits_cons h
    have hmiddle := Tree.writes_of_write? hwrite
    obtain ⟨hkeeps, hfiles, hunits⟩ := ih hlater hrest
    -- The files that come later are at other places, so this one stays.
    have hown := hfiles _ _ hfirst hmiddle.written
    refine ⟨fun place hplace => hkeeps place (hmiddle.directories place hplace), ?_, ?_⟩
    · intro place contents? hother hentry
      rw [List.map_cons, List.mem_cons, not_or] at hother
      exact hfiles place contents? hother.2 (hmiddle.files place contents? hother.1 hentry)
    · refine List.forall_mem_cons.2 ⟨⟨?_, hown⟩, hunits⟩
      exact hmiddle.found after hkeeps (Option.isSome_iff_exists.2 ⟨_, hown⟩)

/-- **Distinct outputs.** For the classes that were loaded into a catalog, whose names are plain, and a
dispatch class that is not named like a builder: no two controllers have one binary name or builders of
one name; no two units, the dispatch class among them, have one name or one path below the output
directory; the dispatch class has exactly one route for each controller, under its binary name, which
leads to the controller and its builder; and whenever all units are written without an error, the path
of each of them leads to a file with exactly its source. -/
theorem outputs_distinct {catalog : Catalog} (hgathered : catalog.Gathered) (platform : Platform)
    (options : Options)
    (hplain : ∀ decl ∈ (catalog.toTable platform).classes, IsPlainName decl.name)
    (hinjector : ∀ front, options.platform.injectorSimpleName ≠ front ++ "Builder") :
    let table := catalog.toTable platform
    let generation := run table options
    generation.units
        = generation.controllers.map (builderOf table options (usesSupport table options))
          ++ dispatchUnits options generation.routes ∧
    (generation.controllers.map Controller.binaryName).Nodup ∧
    (generation.controllers.map Controller.qualifiedBuilderName).Nodup ∧
    (generation.units.map SourceUnit.qualifiedName).Nodup ∧
    (generation.units.map fun unit => pathParts unit.relativePath).Nodup ∧
    generation.routes.entries.Perm (generation.controllers.map fun controller =>
      (controller.binaryName, ⟨controller.qualifiedName, controller.qualifiedBuilderName⟩)) ∧
    ∀ tree directory output after written,
      CommandLine.writeUnits tree directory output generation.units = (after, written, none) →
        ∀ unit ∈ generation.units, ∃ place,
          after.locate? directory (appendPath output unit.relativePath) = some place ∧
            after.read? place = some unit.source := by
  intro table generation
  have hclasses : ∀ decl ∈ table.classes, decl.IsPlain := by
    intro decl hdecl
    refine ⟨hgathered.wellNamed_of_mem_toTable platform hdecl ?_, hplain decl hdecl⟩
    intro hempty
    have hsegment := hplain decl hdecl ""
    rw [hempty] at hsegment
    exact (hsegment List.mem_cons_self).1 rfl
  refine ⟨units_run table options, binaryNames_nodup hclasses options,
    qualifiedBuilderNames_nodup hclasses options, unitNames_nodup hclasses hinjector,
    unitPaths_nodup hclasses hinjector, routes_perm hclasses options, ?_⟩
  intro tree directory output after written hwrite unit hunit
  have hplaces := unitPlaces_nodup hclasses hinjector directory output
  obtain ⟨hfound, hfile⟩ := (written_of_writeUnits hwrite hplaces).2.2 unit hunit
  exact ⟨unitPlace directory output unit, hfound, Tree.read?_of_file hfile⟩

/-! ### A nested controller -/

/-- A marked controller class that is nested in another class. -/
def nestedScreen : ClassDecl :=
  { name := "a.Outer.Screen", package? := some "a", modifiers := [.static],
    superclass? := some (.named "android.app.Fragment"),
    annotations := [⟨"FragmentWithArgs", .empty⟩] }

/-- The catalog with this class alone. -/
def nestedCatalog : Catalog where
  classes := ⟨[("a.Outer.Screen", ⟨nestedScreen, "app.yaml"⟩)], by decide⟩

/-- The document that declares the class. -/
def nestedDocument : Catalog.Document where
  contents := "classes:\n- name: a.Outer.Screen\n  package: a\n  modifiers: [static]\n" ++
    "  superclass: android.app.Fragment\n  annotations:\n  - name: FragmentWithArgs\n"
  path := "app.yaml"

theorem gathered_nested : nestedCatalog.Gathered := by
  have hdeclares : nestedDocument.Declares [nestedScreen] :=
    ⟨{ classes := [nestedScreen] }, by decide +kernel, rfl, rfl⟩
  have hwell : nestedScreen.IsWellNamed := by
    refine ⟨by decide, fun package hpackage => .inr ⟨"Outer.Screen", ?_⟩⟩
    rw [← Option.some.inj hpackage]
    decide
  have hload := (@Catalog.loadText_eq_none_iff { tree := .empty } _ _ hdeclares {} nestedCatalog).2
    ⟨List.forall_mem_singleton.2 hwell, by decide, rfl, rfl⟩
  have hgathered := Catalog.Gathered.text .fresh { tree := .empty } nestedDocument.contents
    nestedDocument.path
  rw [hload] at hgathered
  exact hgathered

theorem toTable_nested :
    nestedCatalog.toTable {} = (ClassTable.ofPlatform {}).insertAll [nestedScreen] := by
  have hresolved : nestedCatalog.resolvedClasses = [nestedScreen] := by decide +kernel
  rw [Catalog.toTable, hresolved]

theorem find?_nested :
    (nestedCatalog.toTable {}).find? nestedScreen.name = some nestedScreen := by
  have hnodup : ([nestedScreen].map ClassDecl.name).Nodup := List.nodup_singleton _
  rw [toTable_nested]
  exact ClassTable.find?_insertAll_of_mem hnodup List.mem_cons_self _

theorem plainNames_nested :
    ∀ decl ∈ (nestedCatalog.toTable {}).classes, IsPlainName decl.name := by
  have hbuiltins : ∀ decl ∈ ClassTable.builtinClasses {}, IsPlainName decl.name := by
    decide +kernel
  intro decl hdecl
  rw [toTable_nested] at hdecl
  rcases ClassTable.mem_classes_insertAll hdecl with hbuiltin | hown
  · rcases ClassTable.mem_classes_insertAll hbuiltin with hempty | hbuiltin
    · cases hempty
    · exact hbuiltins decl hbuiltin
  · rw [List.mem_singleton.1 hown]
    decide +kernel

theorem exists_controller_nested :
    ∃ controller ∈ (run (nestedCatalog.toTable {}) {}).controllers,
      controller.HasNamesOf nestedScreen := by
  have hcontroller : isController (nestedCatalog.toTable {}) {} nestedScreen.name = true :=
    isController_of_superclass find?_nested rfl List.mem_cons_self
  obtain ⟨collection, halone, hnone⟩ := @exists_alone_of_scan (nestedCatalog.toTable {}) {}
    nestedScreen hcontroller rfl (by decide +kernel) rfl (by decide +kernel)
  have haccepted := accepted_of_alone halone hnone
  have hmem : nestedScreen ∈ (nestedCatalog.toTable {}).classes :=
    (ClassTable.mem_classes_iff _ _).2 find?_nested
  have hcandidate : isCandidate (nestedCatalog.toTable {}) {} nestedScreen = true :=
    Bool.or_eq_true_iff.2 (.inl (by decide +kernel))
  obtain ⟨inherited, hbuilt⟩ := built_of_accepted haccepted
  refine ⟨collection.controller, ?_, hbuilt.hasNamesOf⟩
  rw [controllers_run]
  refine List.mem_filterMap.2 ⟨nestedScreen, ?_, haccepted⟩
  exact (candidates_perm _ _).mem_iff.2 (List.mem_filter.2 ⟨hmem, hcandidate⟩)

/-- The dispatch class knows the nested controller by its binary name, and the builder by another
name. -/
theorem outputs_distinct_nested :
    nestedCatalog.Gathered ∧
    (∀ decl ∈ (nestedCatalog.toTable {}).classes, IsPlainName decl.name) ∧
    (∀ front, ({} : Platform).injectorSimpleName ≠ front ++ "Builder") ∧
    ("a.Outer$Screen", Route.mk "a.Outer.Screen" "a.Outer$$ScreenBuilder")
      ∈ (run (nestedCatalog.toTable {}) {}).routes.entries := by
  have hinjector : ∀ front, ({} : Platform).injectorSimpleName ≠ front ++ "Builder" := by
    intro front heq
    have hends : "Builder".toList <:+ ({} : Platform).injectorSimpleName.toList := by
      rw [heq, String.toList_append]
      exact List.suffix_append _ _
    exact absurd hends (by decide +kernel)
  obtain ⟨-, -, -, -, -, hroutes, -⟩ :=
    outputs_distinct gathered_nested {} {} plainNames_nested hinjector
  obtain ⟨controller, hcontroller, hnames⟩ := exists_controller_nested
  have hroute := hroutes.mem_iff.2 (List.mem_map_of_mem hcontroller)
  rw [hnames.qualifiedName, hnames.binaryName, hnames.qualifiedBuilderName] at hroute
  have hbinary : nestedScreen.binaryName = "a.Outer$Screen" := by decide +kernel
  have hbuilder : nestedScreen.inPackage nestedScreen.builderName = "a.Outer$$ScreenBuilder" := by
    decide +kernel
  rw [hbinary, hbuilder] at hroute
  exact ⟨gathered_nested, plainNames_nested, hinjector, hroute⟩

end Generation

end BundleBuilder
