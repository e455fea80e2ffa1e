import BundleBuilder.Proofs.Controller.Inheritance

/-!
# Arguments that a nearer field hides

An argument without a setter is assigned under its own name, on the type of the controller. What such
an assignment reaches is the field of that name in the nearest class that declares one, with or without
a marker (`declarer?`).

If a collection reports no error then every marked field has become an argument, and no two arguments
have one name. A nearer field of an argument's name is therefore unmarked, and the assignment reaches
the argument exactly if there is no such field (`reaches_argument_iff`). A collection does not look at
unmarked fields, so it does not notice when one of them hides an argument (`argument_hidden`).
-/

set_option autoImplicit false

namespace BundleBuilder.Controller

/-! ## The class that a name leads to -/

/-- A level declares a field of a name. -/
def declares (level : Level) (name : String) : Bool :=
  level.decl.fields.any fun field => field.name == name

/-- The first level that declares a field of a name. -/
def declarer? (levels : List Level) (name : String) : Option Level :=
  levels.find? fun level => declares level name

theorem declares_iff {level : Level} {name : String} :
    declares level name = true ↔ ∃ field ∈ level.decl.fields, field.name = name := by
  simp only [declares, List.any_eq_true, beq_iff_eq]

/-- A level that declares a field of the name is the first one if none before it does, provided that
it is not among those before it. -/
theorem declarer?_eq_some_iff {before : List Level} (after : List Level) {level : Level}
    {name : String} (hnew : level ∉ before) (hdeclares : declares level name = true) :
    declarer? (before ++ level :: after) name = some level ↔
      ∀ nearer ∈ before, declares nearer name = false := by
  rw [declarer?, List.find?_append]
  cases hbefore : before.find? fun level => declares level name with
  | some found =>
    have hmem := List.mem_of_find?_eq_some hbefore
    have hfound := List.find?_some hbefore
    refine iff_of_false (fun hsome => ?_) fun hnone => ?_
    · rw [Option.some_or, Option.some.injEq] at hsome
      rw [hsome] at hmem
      exact hnew hmem
    · rw [hnone found hmem] at hfound
      cases hfound
  | none =>
    refine iff_of_true ?_ fun nearer hmem => ?_
    · rw [Option.none_or, List.find?_cons, hdeclares]
    · exact Bool.eq_false_iff.2 (List.find?_eq_none.1 hbefore nearer hmem)

/-! ## Without errors -/

/-- A marked field that was offered to a selection was kept or dropped. -/
theorem mem_kept_or_dropped {marked : List MarkedField} {field : MarkedField} :
    ∀ {selection : Selection},
      field ∈ selection.kept ∨ field ∈ selection.dropped ∨ field ∈ marked →
      field ∈ (marked.foldl Selection.take selection).kept ∨
        field ∈ (marked.foldl Selection.take selection).dropped := by
  induction marked with
  | nil =>
    rintro selection (hkept | hdropped | hlater)
    · exact .inl hkept
    · exact .inr hdropped
    · cases hlater
  | cons first marked ih =>
    intro selection h
    rw [List.foldl_cons]
    refine ih ?_
    rw [Selection.take]
    split
    · rcases h with hkept | hdropped | hlater
      · exact .inl hkept
      · exact .inr (.inl (List.mem_append_left _ hdropped))
      · rcases List.mem_cons.1 hlater with rfl | hlater
        · exact .inr (.inl (List.mem_append_right _ List.mem_cons_self))
        · exact .inr (.inr hlater)
    · rcases h with hkept | hdropped | hlater
      · exact .inl (List.mem_append_left _ hkept)
      · exact .inr (.inl hdropped)
      · rcases List.mem_cons.1 hlater with rfl | hlater
        · exact .inl (List.mem_append_right _ List.mem_cons_self)
        · exact .inr (.inr hlater)

section Tracks

variable {table : ClassTable} {platform : Platform} {decl : ClassDecl} {inherited : Bool}
  {diagnostics : Diagnostics} {collection : Collection} {selection : Selection}

/-- A marked field that was kept has become an argument. -/
theorem Tracks.exists_argument
    (h : Tracks table platform decl inherited diagnostics collection selection)
    {marked : MarkedField} (hmarked : marked ∈ selection.kept) :
    ∃ field ∈ collection.controller.arguments, marked.Declares field := by
  obtain ⟨arguments, hkept, hperm⟩ := h.arguments
  have hmem : marked.argument table platform (ofClass decl inherited).typeBounds
      ∈ arguments.map Except.ok := by
    rw [← hkept]
    exact List.mem_map_of_mem hmarked
  obtain ⟨argument, hargument, hmade⟩ := List.mem_map.1 hmem
  obtain ⟨field, hfield, rfl⟩ := List.mem_map.1 (hperm.mem_iff.2 hargument)
  exact ⟨field, hfield, (declares_of_argument hmade.symm).of_unresolved⟩

/-- A collection that reports no error has dropped no field. -/
theorem Tracks.dropped_eq_nil
    (h : Tracks table platform decl inherited diagnostics collection selection)
    (hsilent : errorsAmong collection.diagnostics.entries = errorsAmong diagnostics.entries) :
    selection.dropped = [] := by
  obtain ⟨added, hentries, herrors⟩ := h.entries
  have hnone : errorsAmong added = [] := by
    rw [hentries, errorsAmong, List.filter_append] at hsilent
    exact List.append_right_eq_self.1 hsilent
  rw [hnone] at herrors
  exact List.map_eq_nil_iff.1 herrors.symm

/-- Without errors, every marked field of an argument's name is of the class that declares the
argument. -/
theorem Tracks.className_of_marked {offered : List MarkedField}
    (h : Tracks table platform decl inherited diagnostics collection (select offered))
    (hsilent : errorsAmong collection.diagnostics.entries = errorsAmong diagnostics.entries)
    {field : ArgField} (hfield : field ∈ collection.controller.arguments) {marked : MarkedField}
    (hmarked : marked ∈ offered) (hname : marked.decl.name = field.name) :
    marked.level.decl.name = field.className := by
  rcases mem_kept_or_dropped (.inr (.inr hmarked)) with hkept | hdropped
  · -- It is an argument of the same name, and no two arguments share one.
    obtain ⟨twin, htwin, hdeclares⟩ := h.exists_argument hkept
    have hsame : twin.variableName = field.variableName := by
      rw [ArgField.variableName, ArgField.variableName, hdeclares.name, hname]
    rw [← h.built.consistent.eq_of_variableName_eq htwin hfield hsame]
    exact hdeclares.className.symm
  · rw [← select, h.dropped_eq_nil hsilent] at hdropped
    cases hdropped

end Tracks

/-- If a collection reports no error then an assignment under the name of an argument reaches the level
that declares it exactly if no nearer level declares an unmarked field of that name. -/
theorem reaches_argument_iff (table : ClassTable) (platform : Platform) (decl : ClassDecl)
    (diagnostics : Diagnostics) (collection : Collection)
    (hcollect : collect table platform decl diagnostics = .ok collection)
    (hsilent : errorsAmong collection.diagnostics.entries = errorsAmong diagnostics.entries) :
    let levels := Level.ofController table platform decl (scanInherited platform decl diagnostics).1
    ∀ field ∈ collection.controller.fields,
      ∃ marked ∈ markedFields platform levels, marked.Declares field ∧
        ∃ nearer farther, levels = nearer ++ marked.level :: farther ∧
          (declarer? levels field.name = some marked.level ↔
            ¬ ∃ level ∈ nearer, ∃ other ∈ level.decl.fields,
              other.name = field.name ∧ other.marker? platform.argMarker = none) := by
  intro levels field hfield
  have htracks := tracks_of_collect hcollect
  have hargument := mem_fields_iff.1 hfield
  obtain ⟨marked, hmarked, hdeclares⟩ := htracks.exists_marked hargument
  obtain ⟨hlevel, hdecl, -⟩ := mem_markedFields_iff.1 hmarked
  obtain ⟨nearer, farther, hlevels⟩ := List.append_of_mem hlevel
  have hnodup := Level.names_ofController_nodup table platform decl
    (scanInherited platform decl diagnostics).1
  rw [hlevels, List.map_append, List.map_cons, List.nodup_append] at hnodup
  -- No class is a level twice, so a nearer level is of another class.
  have hother : ∀ level ∈ nearer, level.decl.name ≠ field.className := by
    intro level hmem
    rw [hdeclares.className]
    exact hnodup.2.2 _ (List.mem_map_of_mem hmem) _ List.mem_cons_self
  have hunmarked : ∀ level ∈ nearer, ∀ other ∈ level.decl.fields, other.name = field.name →
      other.marker? platform.argMarker = none := by
    intro level hmem other hotherDecl hname
    cases hmarker : other.marker? platform.argMarker with
    | none => rfl
    | some marker =>
      have hoffered : MarkedField.mk level other marker ∈ markedFields platform
          (Level.ofController table platform decl (scanInherited platform decl diagnostics).1) := by
        refine mem_markedFields_iff.2 ⟨?_, hotherDecl, hmarker⟩
        rw [hlevels]
        exact List.mem_append_left _ hmem
      exact absurd (htracks.className_of_marked hsilent hargument hoffered hname)
        (hother level hmem)
  refine ⟨marked, hmarked, hdeclares, nearer, farther, hlevels, ?_⟩
  have hnew : marked.level ∉ nearer := fun hmem =>
    hother marked.level hmem hdeclares.className.symm
  have hown : declares marked.level field.name = true :=
    declares_iff.2 ⟨marked.decl, hdecl, hdeclares.name.symm⟩
  have hfirst := declarer?_eq_some_iff farther hnew hown
  rw [← hlevels] at hfirst
  rw [hfirst]
  constructor
  · rintro hnone ⟨level, hmem, other, hotherDecl, hname, -⟩
    exact Bool.eq_false_iff.1 (hnone level hmem) (declares_iff.2 ⟨other, hotherDecl, hname⟩)
  · intro hunhidden level hmem
    rw [Bool.eq_false_iff]
    intro hdeclared
    obtain ⟨other, hotherDecl, hname⟩ := declares_iff.1 hdeclared
    have hfree := hunmarked level hmem other hotherDecl hname
    exact hunhidden ⟨level, hmem, other, hotherDecl, hname, hfree⟩

/-! ### An unmarked field of the same name -/

/-- A class with an argument that everyone can use. -/
def hiddenBase : ClassDecl :=
  { name := "Base", fields := [markedInt "id" [.publicAccess]] }

/-- A class below it with fields of its own, which are no arguments. -/
def hidingSub (name : String) : ClassDecl :=
  { name := "Sub", superclass? := some (.named "Base"),
    fields := [{ name := name, type := .primitive .int }] }

/-- The two classes. -/
def hidingTable (name : String) : ClassTable :=
  ClassTable.empty.insertAll [hiddenBase, hidingSub name]

/-- The levels of the lower class. -/
def hidingLevels (name : String) : List Level := [⟨hidingSub name, []⟩, ⟨hiddenBase, []⟩]

theorem ofController_hiding (name : String) :
    Level.ofController (hidingTable name) {} (hidingSub name) true = hidingLevels name := by
  have hup : Level.parent? (hidingTable name) {} ⟨hidingSub name, []⟩ = some ⟨hiddenBase, []⟩ := rfl
  have htop : Level.parent? (hidingTable name) {} ⟨hiddenBase, []⟩ = none := rfl
  have hnew : ¬ [(hidingSub name).name].contains hiddenBase.name = true := by
    show ¬ ["Sub"].contains "Base" = true
    decide
  rw [Level.ofController, if_pos rfl, Level.climb_eq, hup]
  dsimp only
  rw [if_neg hnew, Level.climb_eq, htop]
  rfl

/-- Whatever the name of the unmarked field, the argument is collected without an error. -/
theorem collect_hiding {name : String} (hname : name ∈ ["count", "id"]) :
    ∃ collection, collect (hidingTable name) {} (hidingSub name) ⟨true, []⟩ = .ok collection ∧
      errorsAmong collection.diagnostics.entries = [] ∧
      ∃ field ∈ collection.controller.fields, field.setter? = none ∧ field.className = "Base" ∧
        field.name = "id" := by
  have hview : ∀ name ∈ ["count", "id"],
      (scanLevels (hidingTable name) {} ⟨ofClass (hidingSub name) true, ⟨true, []⟩⟩
        (hidingLevels name)).toOption.any (fun scanned =>
          scanned.controller.arguments.all (fun field => !scanned.controller.needsSetter field) &&
            (decide (errorsAmong scanned.diagnostics.entries = []) &&
              scanned.controller.arguments.any fun field =>
                decide (field.setter? = none ∧ field.className = "Base" ∧ field.name = "id")))
        = true := by
    decide +kernel
  obtain ⟨collection, hcollect, hfound⟩ := exists_collect_of_scan ⟨true, []⟩
    (ofController_hiding name) _ (hview name hname)
  obtain ⟨hsilent, hargument⟩ := Bool.and_eq_true_iff.1 hfound
  obtain ⟨field, hfield, hknown⟩ := List.any_eq_true.1 hargument
  exact ⟨collection, hcollect, of_decide_eq_true hsilent, field, mem_fields_iff.2 hfield,
    of_decide_eq_true hknown⟩

/-- A field of another name hides nothing, so the argument is reached. -/
theorem reaches_argument_beside_count :
    ∃ collection, collect (hidingTable "count") {} (hidingSub "count") ⟨true, []⟩ = .ok collection ∧
      errorsAmong collection.diagnostics.entries = [] ∧
      ∃ field ∈ collection.controller.fields,
        declarer? (hidingLevels "count") field.name = some ⟨hiddenBase, []⟩ := by
  have hlevels : Level.ofController (hidingTable "count") {} (hidingSub "count")
      (scanInherited {} (hidingSub "count") ⟨true, []⟩).1 = hidingLevels "count" :=
    ofController_hiding "count"
  obtain ⟨collection, hcollect, hsilent, field, hfield, -, -, hname⟩ :=
    collect_hiding List.mem_cons_self
  obtain ⟨marked, hmarked, -, nearer, farther, hsplit, hreaches⟩ :=
    reaches_argument_iff (hidingTable "count") {} (hidingSub "count") ⟨true, []⟩ collection hcollect
      hsilent field hfield
  rw [hlevels] at hmarked hsplit hreaches
  have honly : marked = ⟨⟨hiddenBase, []⟩, markedInt "id" [.publicAccess], ⟨"Arg", .empty⟩⟩ :=
    List.mem_singleton.1 hmarked
  subst honly
  refine ⟨collection, hcollect, hsilent, field, hfield, hreaches.2 ?_⟩
  rintro ⟨level, hmem, other, hother, hsame, hunmarked⟩
  rw [hname] at hsame
  have hnone : ∀ level ∈ hidingLevels "count", ∀ other ∈ level.decl.fields, other.name = "id" →
      (other.marker? ({} : Platform).argMarker).isSome = true := by
    decide +kernel
  have hmarker := hnone level (hsplit ▸ List.mem_append_left _ hmem) other hother hsame
  rw [hunmarked] at hmarker
  cases hmarker

/-- A field of the same name hides the argument, and no error is reported. -/
theorem argument_hidden :
    ∃ collection, collect (hidingTable "id") {} (hidingSub "id") ⟨true, []⟩ = .ok collection ∧
      errorsAmong collection.diagnostics.entries = [] ∧
      ∃ field ∈ collection.controller.fields, field.setter? = none ∧ field.className = "Base" ∧
        declarer? (Level.ofController (hidingTable "id") {} (hidingSub "id") true) field.name
          = some ⟨hidingSub "id", []⟩ := by
  obtain ⟨collection, hcollect, hsilent, field, hfield, hsetter, hclass, hname⟩ :=
    collect_hiding (List.mem_cons_of_mem _ List.mem_cons_self)
  refine ⟨collection, hcollect, hsilent, field, hfield, hsetter, hclass, ?_⟩
  rw [ofController_hiding, hname]
  rfl

end BundleBuilder.Controller
