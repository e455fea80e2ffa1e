import BundleBuilder.Proofs.Controller.Inheritance

/-!
# How arguments are assigned

An argument is assigned directly if its field can be used from the package of the controller, and
otherwise by a setter that takes exactly its type and can be used from there. So every assignment is
permitted (`collected_assignments_permitted`). A collection may give up for want of a setter although
some level declares one: the table has one method for each name, and methods with other parameters
compete for that place. The collection gives up only if no method that could be used has its place
(`missingSetter_of_outranked`).
-/

set_option autoImplicit false

namespace BundleBuilder.Controller

section Scan

variable {table : ClassTable} {platform : Platform} {decl : ClassDecl} {diagnostics : Diagnostics}

/-! ## Every assignment is permitted -/

/-- A setter that the table has and that fits a type is a method of some level that can assign values
of it. -/
theorem IsScanned.exists_method {levels : List Level} {scanned : Collection}
    (h : IsScanned table platform decl diagnostics levels scanned) {type : JavaType} {name : String}
    (hfitting : scanned.controller.HasFitting type name) :
    ∃ method ∈ levelMethods levels, method.decl.name = name ∧ method.CanAssign decl.package type ∧
      scanned.controller.setter? name = method.candidate? := by
  obtain ⟨candidate, hfound, hfits⟩ := hfitting
  obtain ⟨method, hkept, hname, hcandidate⟩ := h.remembers.kept hfound
  rw [h.tracks.built.package_eq] at hfits
  refine ⟨method, hkept.mem, hname, (LevelMethod.canAssign_iff hcandidate).2 hfits, ?_⟩
  rw [hfound, hcandidate]

/-- A field that is assigned directly can be used from the package of the controller, and all other
fields have a setter. That is a method of some level which is not static, takes exactly the type of
the argument there, and can be used from the package of the controller. It is the first of the names
tried under which the setter table has such a method. -/
theorem collected_assignments_permitted (table : ClassTable) (platform : Platform)
    (decl : ClassDecl) (diagnostics : Diagnostics) (collection : Collection)
    (hcollect : collect table platform decl diagnostics = .ok collection) :
    let levels := Level.ofController table platform decl (scanInherited platform decl diagnostics).1
    collection.controller.package = decl.package ∧
    ∀ field ∈ collection.controller.fields,
      (∃ marked ∈ markedFields platform levels, marked.Declares field) ∧
      (field.setter? = none ↔ field.visibility.IsOpen field.classPackage decl.package) ∧
      ∀ setter, field.setter? = some setter →
        (∃ method ∈ levelMethods levels, method.decl.name = setter ∧
          method.CanAssign decl.package field.type ∧
          collection.controller.setter? setter = method.candidate?) ∧
        collection.controller.HasFitting field.type setter ∧
        ∃ before after, field.setterNames = before ++ setter :: after ∧
          ∀ name ∈ before, ¬ collection.controller.HasFitting field.type name := by
  intro levels
  have htracks := tracks_of_collect hcollect
  have hpackage := htracks.built.package_eq
  refine ⟨hpackage, fun field hfield => ?_⟩
  have hargument := mem_fields_iff.1 hfield
  refine ⟨htracks.exists_marked hargument, ?_⟩
  obtain ⟨scanned, hscanned, hresolve⟩ := collect_eq_ok hcollect
  have hsetters := setters_resolveSetters hresolve
  obtain ⟨before, hbefore, hcases⟩ :=
    resolved_argument hscanned.tracks.built.consistent hresolve hargument
  -- The table is the one of the scan, so that a setter fits now exactly if it did there.
  have hfitting : ∀ name, collection.controller.HasFitting before.type name ↔
      scanned.controller.HasFitting before.type name := by
    intro name
    rw [HasFitting, HasFitting, setter?, setter?, hsetters, hpackage,
      hscanned.tracks.built.package_eq]
  rcases hcases with ⟨hdirect, rfl⟩ | ⟨setter, hneeds, hsetter, rfl⟩
  · have hnone : field.setter? = none := hscanned.unassigned field hbefore
    rw [needsSetter_eq_false_iff, hscanned.tracks.built.package_eq] at hdirect
    refine ⟨iff_of_true hnone hdirect, fun setter hsome => ?_⟩
    rw [hnone] at hsome
    cases hsome
  · obtain ⟨hfits, earlier, later, hnames, hearlier⟩ := resolveSetter_eq_ok hsetter
    have hclosed : ¬ before.visibility.IsOpen before.classPackage decl.package := by
      rw [← hscanned.tracks.built.package_eq]
      exact needsSetter_iff.1 hneeds
    refine ⟨iff_of_false (Option.some_ne_none setter) hclosed, fun other hother => ?_⟩
    obtain rfl : setter = other := Option.some.inj hother
    refine ⟨?_, (hfitting setter).2 hfits, earlier, later, hnames, fun name hmem hfit =>
      hearlier name hmem ((hfitting name).1 hfit)⟩
    obtain ⟨method, hmem, hname, hassigns, hentry⟩ := hscanned.exists_method hfits
    refine ⟨method, hmem, hname, ⟨hassigns.notStatic, hassigns.takes, hassigns.isOpen⟩, ?_⟩
    rw [setter?, hsetters]
    exact hentry

/-! ### A protected field of another package -/

/-- A collection succeeds if every argument that was scanned and needs a setter has one. -/
theorem exists_collect_of_resolvable {levels : List Level} {scanned : Collection}
    (hlevels : Level.ofController table platform decl (scanInherited platform decl diagnostics).1
      = levels)
    (hscan : scanLevels table platform ⟨ofClass decl (scanInherited platform decl diagnostics).1,
      (scanInherited platform decl diagnostics).2⟩ levels = .ok scanned)
    (hresolvable : ∀ field ∈ scanned.controller.arguments,
      scanned.controller.needsSetter field = true →
        ∃ setter, scanned.controller.resolveSetter field = .ok setter) :
    ∃ collection, collect table platform decl diagnostics = .ok collection := by
  obtain ⟨next, hresolve⟩ := resolveSetters_isOk_iff.2 hresolvable
  refine ⟨{ scanned with controller := next }, ?_⟩
  rw [collect, hlevels, hscan]
  dsimp only
  rw [Collection.finish, hresolve]

end Scan

/-- A public method with one parameter. -/
def setterMethod (name : String) (type : JavaType) : MethodDecl :=
  { name := name, modifiers := [.publicAccess], parameters := [{ type := type }] }

/-- A class with a protected argument and a setter for it. -/
def guardedBase : ClassDecl :=
  { name := "com.example.base.Base", fields := [markedInt "count" [.protectedAccess]],
    methods := [setterMethod "setCount" (.primitive .int)] }

/-- A controller below it, in another package. -/
def guardedDetail : ClassDecl :=
  { name := "com.example.Detail", superclass? := some (.named "com.example.base.Base") }

/-- The two classes. -/
def guardedTable : ClassTable := ClassTable.empty.insertAll [guardedBase, guardedDetail]

theorem ofController_guarded :
    Level.ofController guardedTable {} guardedDetail true
      = [⟨guardedDetail, []⟩, ⟨guardedBase, []⟩] := by
  have hup : Level.parent? guardedTable {} ⟨guardedDetail, []⟩ = some ⟨guardedBase, []⟩ := rfl
  have htop : Level.parent? guardedTable {} ⟨guardedBase, []⟩ = none := rfl
  rw [Level.ofController, if_pos rfl, Level.climb_eq, hup]
  dsimp only
  rw [if_neg (by decide), Level.climb_eq, htop]

theorem collect_guarded :
    ∃ collection, collect guardedTable {} guardedDetail ⟨true, []⟩ = .ok collection := by
  have hresolvable : (scanLevels guardedTable {} ⟨ofClass guardedDetail true, ⟨true, []⟩⟩
      [⟨guardedDetail, []⟩, ⟨guardedBase, []⟩]).toOption.any (fun scanned =>
        scanned.controller.arguments.all fun field =>
          (scanned.controller.resolveSetter field).toOption.isSome) = true := by
    decide +kernel
  obtain ⟨scanned, hscan, hall⟩ := exists_ok_of_any hresolvable
  refine exists_collect_of_resolvable ofController_guarded hscan fun field hmem _ => ?_
  have hfield := List.all_eq_true.1 hall field hmem
  cases hsetter : scanned.controller.resolveSetter field with
  | error error =>
    rw [hsetter] at hfield
    cases hfield
  | ok setter => exact ⟨setter, rfl⟩

/-- The protected field of another package is assigned by the setter that is declared beside it. -/
theorem collected_assignments_permitted_guarded :
    ∃ collection, collect guardedTable {} guardedDetail ⟨true, []⟩ = .ok collection ∧
      collection.controller.arguments.map (·.name) = ["count"] ∧
      ∀ field ∈ collection.controller.fields, field.setter? = some "setCount" := by
  have hlevels : Level.ofController guardedTable {} guardedDetail
      (scanInherited {} guardedDetail ⟨true, []⟩).1 = [⟨guardedDetail, []⟩, ⟨guardedBase, []⟩] :=
    ofController_guarded
  obtain ⟨collection, hcollect⟩ := collect_guarded
  obtain ⟨-, hall⟩ := collected_assignments_permitted guardedTable {} guardedDetail ⟨true, []⟩
    collection hcollect
  have htracks := tracks_of_collect hcollect
  rw [hlevels] at hall htracks
  have hnames := htracks.map_arguments (·.name) (·.decl.name) (fun _ => rfl)
    fun hargument => (declares_of_argument hargument).name
  refine ⟨collection, hcollect, List.perm_singleton.1 hnames, fun field hfield => ?_⟩
  obtain ⟨⟨marked, hmarked, hdeclares⟩, hdirect, hsetter⟩ := hall field hfield
  have honly : marked = ⟨⟨guardedBase, []⟩, markedInt "count" [.protectedAccess], ⟨"Arg", .empty⟩⟩ :=
    List.mem_singleton.1 hmarked
  subst honly
  have hclosed : ¬ field.visibility.IsOpen field.classPackage guardedDetail.package := by
    rw [hdeclares.visibility, hdeclares.classPackage]
    rintro (hpublic | ⟨-, hpackage⟩)
    · cases hpublic
    · exact absurd hpackage (by decide +kernel)
  obtain ⟨setter, hsome⟩ : ∃ setter, field.setter? = some setter :=
    Option.ne_none_iff_exists'.1 fun hnone => hclosed (hdirect.1 hnone)
  obtain ⟨⟨method, hmethod, hname, -⟩, -⟩ := hsetter setter hsome
  have hmethods : method = ⟨⟨guardedBase, []⟩, setterMethod "setCount" (.primitive .int)⟩ :=
    List.mem_singleton.1 hmethod
  rw [hsome, ← hname, hmethods]
  rfl

/-! ## No setter that could be used has its place -/

section Scan

variable {table : ClassTable} {platform : Platform} {decl : ClassDecl} {diagnostics : Diagnostics}

/-- A collection gives up only if a field cannot be used from the package of the controller and the
method that is kept under each of its setter names cannot assign it. A method of some level that could
assign it then exists only beside one that is kept in its place. -/
theorem missingSetter_of_outranked (table : ClassTable) (platform : Platform) (decl : ClassDecl)
    (diagnostics : Diagnostics) (failure : Failure)
    (hcollect : collect table platform decl diagnostics = .error failure)
    (site : FieldSite) (simpleClass signature : String)
    (hmissing : failure.error = .missingSetter site simpleClass signature) :
    let levels := Level.ofController table platform decl (scanInherited platform decl diagnostics).1
    ∃ field : ArgField, (∃ marked ∈ markedFields platform levels, marked.Declares field) ∧
      failure.error = .missingSetter field.site field.simpleClassName field.proposedSetter ∧
      ¬ field.visibility.IsOpen field.classPackage decl.package ∧
      ∀ method ∈ levelMethods levels, method.decl.name ∈ field.setterNames →
        method.CanAssign decl.package field.type →
        ¬ IsKept (levelMethods levels) method ∧
        ∃ kept, IsKept (levelMethods levels) kept ∧ kept.decl.name = method.decl.name ∧
          ¬ kept.CanAssign decl.package field.type := by
  intro levels
  obtain ⟨scanned, hscanned, field, hfield, hneeds, hunresolved⟩ :=
    collect_eq_missingSetter hcollect hmissing
  have hpackage := hscanned.tracks.built.package_eq
  obtain ⟨herror, hnone⟩ := resolveSetter_eq_error hunresolved
  have hclosed : ¬ field.visibility.IsOpen field.classPackage decl.package := by
    rw [← hpackage]
    exact needsSetter_iff.1 hneeds
  refine ⟨field, hscanned.tracks.exists_marked hfield, herror, hclosed, ?_⟩
  intro method hmem hname hassigns
  have hcompetes := hassigns.competes hname
  obtain ⟨candidate, hfound⟩ : ∃ candidate,
      scanned.controller.setter? method.decl.name = some candidate := by
    rw [← Option.ne_none_iff_exists']
    exact fun hempty => hscanned.remembers.missing hempty method hmem hcompetes rfl
  obtain ⟨kept, hkept, hkeptName, hcandidate⟩ := hscanned.remembers.kept hfound
  have hunfit : ¬ kept.CanAssign decl.package field.type := by
    rw [LevelMethod.canAssign_iff hcandidate, ← hpackage]
    exact fun hfits => hnone _ hname ⟨candidate, hfound, hfits⟩
  refine ⟨fun hself => hunfit ?_, kept, hkept, hkeptName, hunfit⟩
  rw [hkept.unique hself hkeptName]
  exact hassigns

/-- A collection fails if an argument that was scanned needs a setter and has none. -/
theorem collect_eq_error_of_unresolvable {levels : List Level} {scanned : Collection}
    (hlevels : Level.ofController table platform decl (scanInherited platform decl diagnostics).1
      = levels)
    (hscan : scanLevels table platform ⟨ofClass decl (scanInherited platform decl diagnostics).1,
      (scanInherited platform decl diagnostics).2⟩ levels = .ok scanned)
    (hunresolvable : ¬ ∀ field ∈ scanned.controller.arguments,
      scanned.controller.needsSetter field = true →
        ∃ setter, scanned.controller.resolveSetter field = .ok setter) :
    ∃ failure site simpleClass signature,
      collect table platform decl diagnostics = .error failure ∧
      failure.error = .missingSetter site simpleClass signature := by
  cases hassignments : scanned.controller.setterAssignments scanned.controller.fields with
  | ok assignments =>
    refine absurd (resolveSetters_isOk_iff.1 ?_) hunresolvable
    rw [resolveSetters, hassignments]
    exact ⟨_, rfl⟩
  | error error =>
    obtain ⟨field, -, -, hunresolved⟩ := setterAssignments_eq_error hassignments
    refine ⟨⟨error, scanned.diagnostics⟩, _, _, _, ?_, (resolveSetter_eq_error hunresolved).1⟩
    rw [collect, hlevels, hscan]
    dsimp only
    rw [Collection.finish, resolveSetters, hassignments]

end Scan

/-! ### Two overloads -/

/-- A class with a private argument and two methods of its setter's name, the one that takes the type of
the argument behind the other. -/
def overloadedDecl : ClassDecl :=
  { name := "Detail", fields := [markedInt "id" [.privateAccess]],
    methods := [setterMethod "setId" (.primitive .long), setterMethod "setId" (.primitive .int)] }

theorem ofController_overloaded :
    Level.ofController .empty {} overloadedDecl true = [⟨overloadedDecl, []⟩] := by
  have htop : Level.parent? .empty {} ⟨overloadedDecl, []⟩ = none := rfl
  rw [Level.ofController, if_pos rfl, Level.climb_eq, htop]

theorem collect_overloaded :
    ∃ failure site simpleClass signature,
      collect .empty {} overloadedDecl ⟨true, []⟩ = .error failure ∧
      failure.error = .missingSetter site simpleClass signature := by
  have hunresolved : (scanLevels .empty {} ⟨ofClass overloadedDecl true, ⟨true, []⟩⟩
      [⟨overloadedDecl, []⟩]).toOption.any (fun scanned =>
        scanned.controller.arguments.any fun field => scanned.controller.needsSetter field &&
          (scanned.controller.resolveSetter field).toOption.isNone) = true := by
    decide +kernel
  obtain ⟨scanned, hscan, hany⟩ := exists_ok_of_any hunresolved
  refine collect_eq_error_of_unresolvable ofController_overloaded hscan fun hall => ?_
  obtain ⟨field, hmem, hfield⟩ := List.any_eq_true.1 hany
  obtain ⟨hneeds, hnone⟩ := Bool.and_eq_true_iff.1 hfield
  obtain ⟨setter, hsetter⟩ := hall field hmem hneeds
  rw [hsetter] at hnone
  cases hnone

/-- The only field of the class is the private one. -/
theorem declares_overloaded {field : ArgField} {marked : MarkedField}
    (hmarked : marked ∈ markedFields {} [⟨overloadedDecl, []⟩]) (h : marked.Declares field) :
    field.name = "id" ∧ field.type = .primitive .int := by
  have honly : marked = ⟨⟨overloadedDecl, []⟩, markedInt "id" [.privateAccess], ⟨"Arg", .empty⟩⟩ :=
    List.mem_singleton.1 hmarked
  subst honly
  exact ⟨h.name, h.type⟩

/-- The second method is one that could assign the field. -/
theorem exists_usable_overloaded {field : ArgField} (hname : field.name = "id")
    (htype : field.type = .primitive .int) :
    ∃ method ∈ levelMethods [⟨overloadedDecl, []⟩], method.decl.name ∈ field.setterNames ∧
      method.CanAssign overloadedDecl.package field.type := by
  refine ⟨⟨⟨overloadedDecl, []⟩, setterMethod "setId" (.primitive .int)⟩,
    List.mem_cons_of_mem _ List.mem_cons_self, ?_, ?_⟩
  · rw [ArgField.setterNames, ArgField.variableName, hname]
    decide +kernel
  · rw [htype]
    exact ⟨by decide, rfl, .inl rfl⟩

/-- The method that takes the type of the argument could be used, but the method before it has its
place. -/
theorem missingSetter_of_outranked_overloaded :
    ∃ failure site simpleClass signature,
      collect .empty {} overloadedDecl ⟨true, []⟩ = .error failure ∧
      failure.error = .missingSetter site simpleClass signature ∧
      ∃ kept, IsKept (levelMethods [⟨overloadedDecl, []⟩]) kept ∧
        ¬ kept.CanAssign overloadedDecl.package (.primitive .int) := by
  have hlevels : Level.ofController .empty {} overloadedDecl
      (scanInherited {} overloadedDecl ⟨true, []⟩).1 = [⟨overloadedDecl, []⟩] :=
    ofController_overloaded
  obtain ⟨failure, site, simpleClass, signature, hcollect, hmissing⟩ := collect_overloaded
  obtain ⟨field, ⟨marked, hmarked, hdeclares⟩, -, -, houtranked⟩ :=
    missingSetter_of_outranked .empty {} overloadedDecl ⟨true, []⟩ failure hcollect site simpleClass
      signature hmissing
  rw [hlevels] at hmarked houtranked
  obtain ⟨hname, htype⟩ := declares_overloaded hmarked hdeclares
  obtain ⟨method, hmethod, hnamed, hassigns⟩ := exists_usable_overloaded hname htype
  obtain ⟨-, kept, hkept, -, hunfit⟩ := houtranked method hmethod hnamed hassigns
  rw [htype] at hunfit
  exact ⟨failure, site, simpleClass, signature, hcollect, hmissing, kept, hkept, hunfit⟩

/-- A collection gives up although the class declares a setter that could be used. -/
theorem missingSetter_beside_usable_overload :
    ∃ failure field,
      collect .empty {} overloadedDecl ⟨true, []⟩ = .error failure ∧
      failure.error = .missingSetter field.site field.simpleClassName field.proposedSetter ∧
      (∃ marked ∈ markedFields {} [⟨overloadedDecl, []⟩], marked.Declares field) ∧
      ∃ method ∈ levelMethods [⟨overloadedDecl, []⟩], method.decl.name ∈ field.setterNames ∧
        method.CanAssign overloadedDecl.package field.type := by
  have hlevels : Level.ofController .empty {} overloadedDecl
      (scanInherited {} overloadedDecl ⟨true, []⟩).1 = [⟨overloadedDecl, []⟩] :=
    ofController_overloaded
  obtain ⟨failure, site, simpleClass, signature, hcollect, hmissing⟩ := collect_overloaded
  obtain ⟨scanned, hscanned, field, hfield, -, hunresolved⟩ :=
    collect_eq_missingSetter hcollect hmissing
  rw [hlevels] at hscanned
  obtain ⟨marked, hmarked, hdeclares⟩ := hscanned.tracks.exists_marked hfield
  obtain ⟨hname, htype⟩ := declares_overloaded hmarked hdeclares
  exact ⟨failure, field, hcollect, (resolveSetter_eq_error hunresolved).1,
    ⟨marked, hmarked, hdeclares⟩, exists_usable_overloaded hname htype⟩

end BundleBuilder.Controller
