import BundleBuilder.Proofs.ClassTable.Reachability
import BundleBuilder.Proofs.Controller.Resolution
import BundleBuilder.Proofs.JavaType.Substitution

/-!
# Inherited type arguments

The levels of a controller bind type parameters on their way up, and the supertype search puts in
type arguments on its own way. Where every superclass is given as many type arguments as it has type
parameters, both agree: a level binds its parameters to the type arguments of the view that the
search gives of the controller as the class of that level (`inheritedArguments_agree`). So the types
of inherited arguments and setters are the declared types seen through that view.

The search follows the superclasses first. As no class is a level twice, it goes up level by level
and meets the class it looks for before it turns to any interface.
-/

set_option autoImplicit false

namespace BundleBuilder

open ClassTable

/-! ## Levels and views -/

namespace Level

/-- What the type parameters of a level stand for. -/
def arguments (level : Level) : List JavaType :=
  level.decl.typeParameterNames.map fun name =>
    (JavaType.typeVariable name).substitute level.bindings

/-- The class of a level with what its type parameters stand for. -/
def view (level : Level) : JavaType := .declared level.decl.name level.arguments

/-- The superclass of the lower level gives as many type arguments as the upper level has type
parameters. -/
def SuppliesArguments (child parent : Level) : Prop :=
  ∀ name args,
    child.decl.superclass?.map (JavaType.substitute child.bindings) = some (.declared name args) →
      args.length = parent.decl.typeParameters.length

/-- The class of a level is the one that the table knows, and its bindings replace what the type
arguments of its view replace. -/
structure Agrees (table : ClassTable) (level : Level) : Prop where
  known : table.find? level.decl.name = some level.decl
  bindings : ∀ type : JavaType,
    type.substitute (argumentBindings level.decl level.arguments) = type.substitute level.bindings

variable {table : ClassTable} {platform : Platform}

theorem view_start (decl : ClassDecl) : view ⟨decl, []⟩ = decl.selfType := rfl

/-- At the first level, nothing is bound and every type parameter stands for itself. -/
theorem agrees_start {decl : ClassDecl} (hknown : table.find? decl.name = some decl) :
    Agrees table ⟨decl, []⟩ := by
  refine ⟨hknown, fun type => ?_⟩
  show type.substitute (decl.typeParameterNames.zip (decl.typeParameterNames.map .typeVariable))
    = type.substitute []
  rw [JavaType.substitute_nil]
  refine JavaType.substitute_eq_self ?_ type
  intro name bound hbound
  have hpairs : decl.typeParameterNames.zip (decl.typeParameterNames.map JavaType.typeVariable)
      = decl.typeParameterNames.map fun name => (name, .typeVariable name) := by
    have hzip := List.zip_map' (f := id) (g := JavaType.typeVariable)
      (l := decl.typeParameterNames)
    rwa [List.map_id] at hzip
  have hmem := Bindings.mem_of_lookupLast hbound
  rw [hpairs, List.mem_map] at hmem
  obtain ⟨variableName, -, heq⟩ := hmem
  obtain ⟨rfl, rfl⟩ := Prod.mk.inj heq
  rfl

/-- With a type argument for each parameter, the two lists are bound side by side. -/
theorem bind_eq_zip {parameters : List TypeParameter} {args : List JavaType}
    (hlength : args.length = parameters.length) :
    bind parameters args = (parameters.map (·.name)).zip args := by
  induction parameters generalizing args with
  | nil =>
    rw [List.length_eq_zero_iff.1 hlength]
    rfl
  | cons parameter parameters ih =>
    cases args with
    | nil => cases hlength
    | cons arg args => rw [bind, ih (Nat.succ.inj hlength), List.map_cons, List.zip_cons_cons]

/-- The next level is the known class of the superclass, with its parameters bound. -/
theorem parent?_eq_some {level parent : Level}
    (h : level.parent? table platform = some parent) :
    ∃ name args,
      level.decl.superclass?.map (JavaType.substitute level.bindings) = some (.declared name args) ∧
      table.find? name = some parent.decl ∧
      parent.bindings = bind parent.decl.typeParameters args := by
  rw [parent?] at h
  split at h
  · next name args hsuperclass =>
    split at h
    · cases h
    · obtain ⟨decl, hfind, rfl⟩ := Option.map_eq_some_iff.1 h
      exact ⟨name, args, hsuperclass, hfind, rfl⟩
  · cases h

/-- The parameters of a level with distinct parameters are bound to the types they stand for. -/
theorem arguments_of_zip {level : Level} {args : List JavaType}
    (hnodup : level.decl.typeParameterNames.Nodup)
    (hlength : args.length = level.decl.typeParameterNames.length)
    (hbindings : level.bindings = level.decl.typeParameterNames.zip args) :
    level.decl.typeParameterNames.map level.bindings.find? = args.map some ∧
      level.arguments = args := by
  rw [arguments, hbindings]
  exact ⟨Bindings.map_find?_zip hnodup hlength, JavaType.map_substitute_zip hnodup hlength⟩

/-- One level up: the superclass of the level below is the view of the level above, whose bindings
are those of its type arguments. -/
theorem agrees_parent {level parent : Level} (hparent : level.parent? table platform = some parent)
    (hsupplies : SuppliesArguments level parent)
    (hnodup : parent.decl.typeParameterNames.Nodup) :
    Agrees table parent ∧
      level.decl.superclass?.map (JavaType.substitute level.bindings) = some parent.view ∧
      parent.decl.typeParameterNames.map parent.bindings.find? = parent.arguments.map some ∧
      parent.bindings = argumentBindings parent.decl parent.arguments := by
  obtain ⟨name, args, hsuperclass, hfind, hbind⟩ := parent?_eq_some hparent
  have hlength := hsupplies name args hsuperclass
  rw [bind_eq_zip hlength] at hbind
  have hnames : args.length = parent.decl.typeParameterNames.length := by
    rw [hlength, ClassDecl.typeParameterNames, List.length_map]
  obtain ⟨hfound, harguments⟩ := arguments_of_zip hnodup hnames hbind
  have hname : parent.decl.name = name := name_of_find? hfind
  have hbindings : parent.bindings = argumentBindings parent.decl parent.arguments := by
    rw [harguments]
    exact hbind
  refine ⟨⟨?_, fun type => ?_⟩, ?_, ?_, hbindings⟩
  · rw [hname]
    exact hfind
  · rw [← hbindings]
  · rw [hsuperclass, view, hname, harguments]
  · rw [harguments]
    exact hfound

/-! ## The search goes up level by level -/

/-- Where a level is not what is searched for, the search goes on with its superclass. -/
theorem search_level {level : Level} (hagrees : Agrees table level) {target : String}
    (htarget : level.decl.name ≠ target) {entered : List String}
    (hfresh : level.decl.name ∉ entered) {upper : JavaType}
    (hupper : level.decl.superclass?.map (JavaType.substitute level.bindings) = some upper)
    (pending : List JavaType) :
    ∃ others, searchSupertype table target entered (level.view :: pending)
      = searchSupertype table target (level.decl.name :: entered) (upper :: others) := by
  obtain ⟨superclass, hsuperclass, rfl⟩ := Option.map_eq_some_iff.1 hupper
  -- A level has an argument for each parameter, so its view is not raw.
  have hnotRaw :
      ¬ (level.arguments.isEmpty = true ∧ ¬ level.decl.typeParameters.isEmpty = true) := by
    rintro ⟨hempty, hgeneric⟩
    rw [arguments, ClassDecl.typeParameterNames, List.isEmpty_iff, List.map_eq_nil_iff,
      List.map_eq_nil_iff] at hempty
    exact hgeneric (List.isEmpty_iff.2 hempty)
  let others := level.decl.interfaces.map
    (JavaType.substitute (argumentBindings level.decl level.arguments))
  have hsteps : supertypeStep level.decl level.arguments
      = superclass.substitute level.bindings :: others := by
    rw [supertypeStep, if_neg hnotRaw, directSupertypes, hsuperclass, List.singleton_append,
      List.map_cons, hagrees.bindings]
  refine ⟨others ++ pending, ?_⟩
  have hnew : ¬ entered.contains level.decl.name = true := fun h =>
    hfresh (List.contains_iff_mem.1 h)
  rw [view, searchSupertype_declared, if_neg htarget, if_neg hnew, hagrees.known]
  dsimp only
  rw [hsteps, List.cons_append]

/-- From the view of a level, the search finds the view of every level above it. -/
theorem search_levels {levels : List Level} :
    ∀ {level : Level}, Agrees table level →
    (level :: levels).IsChain (fun child parent => child.parent? table platform = some parent) →
    (level :: levels).IsChain SuppliesArguments →
    (∀ above ∈ levels, above.decl.typeParameterNames.Nodup) →
    ((level :: levels).map fun level => level.decl.name).Nodup →
    ∀ (entered : List String), (∀ above ∈ level :: levels, above.decl.name ∉ entered) →
    ∀ (pending : List JavaType), ∀ above ∈ level :: levels,
      searchSupertype table above.decl.name entered (level.view :: pending) = some above.view := by
  induction levels with
  | nil =>
    intro level _ _ _ _ _ entered _ pending above hmem
    rw [List.mem_singleton.1 hmem, view, searchSupertype_declared, if_pos rfl]
  | cons parent levels ih =>
    intro level hagrees hchain hsupplies hparameters hnames entered hfresh pending above hmem
    obtain ⟨hparent, hchain⟩ := List.isChain_cons_cons.1 hchain
    obtain ⟨hsupply, hsupplies⟩ := List.isChain_cons_cons.1 hsupplies
    obtain ⟨hparameters, hrest⟩ := List.forall_mem_cons.1 hparameters
    obtain ⟨hnew, hnames⟩ := List.nodup_cons.1 hnames
    dsimp only at hnew
    obtain ⟨hlevel, hfresh⟩ := List.forall_mem_cons.1 hfresh
    rcases List.mem_cons.1 hmem with rfl | hmem
    · rw [view, searchSupertype_declared, if_pos rfl]
    · obtain ⟨hagreesParent, hsuperclass, -⟩ := agrees_parent hparent hsupply hparameters
      -- The class of this level is another one, since no class is a level twice.
      have hother : level.decl.name ≠ above.decl.name := by
        intro heq
        rw [heq] at hnew
        exact hnew (List.mem_map_of_mem (f := fun level => level.decl.name) hmem)
      obtain ⟨others, hsearch⟩ := search_level hagrees hother hlevel hsuperclass pending
      rw [hsearch]
      refine ih hagreesParent hchain hsupplies hrest hnames _ ?_ others above hmem
      intro upper hupper
      rw [List.mem_cons, not_or]
      refine ⟨?_, hfresh upper hupper⟩
      intro heq
      rw [← heq] at hnew
      exact hnew (List.mem_map_of_mem (f := fun level => level.decl.name) hupper)

/-- The search gives the class of a controller the view of every level above it, and the bindings of
that level are those of the view's type arguments. -/
theorem supertypeAs?_selfType {decl : ClassDecl} {inherited : Bool}
    (hknown : table.find? decl.name = some decl)
    (hparameters : ∀ level ∈ ofController table platform decl inherited,
      level.decl.typeParameterNames.Nodup)
    (hsupplies : (ofController table platform decl inherited).IsChain SuppliesArguments) :
    ∀ level ∈ (ofController table platform decl inherited).tail,
      table.supertypeAs? decl.selfType level.decl.name = some level.view ∧
        level.decl.typeParameterNames.map level.bindings.find? = level.arguments.map some ∧
        level.bindings = argumentBindings level.decl level.arguments := by
  have hchain := isChain_ofController table platform decl inherited
  have hnames := names_ofController_nodup table platform decl inherited
  have hhead := head?_ofController table platform decl inherited
  generalize ofController table platform decl inherited = levels at *
  obtain ⟨above, rfl⟩ : ∃ above, levels = ⟨decl, []⟩ :: above := by
    cases levels with
    | nil => cases hhead
    | cons level above =>
      rw [List.head?_cons, Option.some.injEq] at hhead
      exact ⟨above, by rw [hhead]⟩
  intro level hmem
  rw [List.tail_cons] at hmem
  refine ⟨?_, ?_⟩
  · have hsearch := search_levels (agrees_start hknown) hchain hsupplies
      (List.forall_mem_cons.1 hparameters).2 hnames [] (fun _ _ => List.not_mem_nil) []
      level (List.mem_cons_of_mem _ hmem)
    rwa [view_start] at hsearch
  · obtain ⟨front, back, hsplit⟩ := List.append_of_mem hmem
    have hlast : ∃ before child, (⟨decl, []⟩ :: above : List Level)
        = before ++ child :: level :: back := by
      rw [hsplit]
      rcases List.eq_nil_or_concat front with rfl | ⟨before, child, rfl⟩
      · exact ⟨[], _, rfl⟩
      · exact ⟨⟨decl, []⟩ :: before, child, by simp⟩
    obtain ⟨before, child, hlevels⟩ := hlast
    rw [hlevels] at hchain hsupplies
    have hparent := (List.isChain_cons_cons.1 (List.isChain_append.1 hchain).2.1).1
    have hsupply := (List.isChain_cons_cons.1 (List.isChain_append.1 hsupplies).2.1).1
    have hnodup := hparameters level (List.mem_cons_of_mem _ hmem)
    obtain ⟨-, -, hfound, hbindings⟩ := agrees_parent hparent hsupply hnodup
    exact ⟨hfound, hbindings⟩

end Level

/-! ## Where arguments and setters come from -/

namespace Controller

variable {table : ClassTable} {platform : Platform} {decl : ClassDecl}

/-- What a selection keeps was offered to it. -/
theorem mem_of_mem_kept {marked : List MarkedField} :
    ∀ {selection : Selection} {field : MarkedField},
      field ∈ (marked.foldl Selection.take selection).kept →
        field ∈ selection.kept ∨ field ∈ marked := by
  induction marked with
  | nil => exact fun h => .inl h
  | cons first marked ih =>
    intro selection field h
    rw [List.foldl_cons] at h
    rcases ih h with hkept | hlater
    · rw [Selection.take] at hkept
      split at hkept
      · exact .inl hkept
      · rcases List.mem_append.1 hkept with hbefore | hfirst
        · exact .inl hbefore
        · rw [List.mem_singleton.1 hfirst]
          exact .inr List.mem_cons_self
    · exact .inr (List.mem_cons_of_mem _ hlater)

/-- What an argument takes over from its field and from the level that declares it. -/
structure MarkedField.Declares (marked : MarkedField) (field : ArgField) : Prop where
  name : field.name = marked.decl.name
  className : field.className = marked.level.decl.name
  classPackage : field.classPackage = marked.level.decl.package
  visibility : field.visibility = marked.decl.visibility
  type : field.type = marked.decl.type.substitute marked.level.bindings

theorem declares_of_argument {bounds : TypeBounds} {marked : MarkedField} {field : ArgField}
    (h : marked.argument table platform bounds = .ok field) : marked.Declares field := by
  unfold MarkedField.argument argumentOf at h
  dsimp only at h
  split at h
  · cases h
  · split at h
    · cases h
    · rw [← Except.ok.inj h]
      exact ⟨rfl, rfl, rfl, rfl, rfl⟩

/-- Codec variable and setter do not come from the field. -/
theorem MarkedField.Declares.of_unresolved {marked : MarkedField} {field : ArgField}
    (h : marked.Declares (unresolved field)) : marked.Declares field :=
  ⟨h.name, h.className, h.classPackage, h.visibility, h.type⟩

/-- The marked fields are those of the levels, with the level that declares them. -/
theorem mem_markedFields_iff {levels : List Level} {marked : MarkedField} :
    marked ∈ markedFields platform levels ↔
      marked.level ∈ levels ∧ marked.decl ∈ marked.level.decl.fields ∧
        marked.decl.marker? platform.argMarker = some marked.marker := by
  obtain ⟨level, fieldDecl, marker⟩ := marked
  simp only [markedFields, markedField?, List.mem_flatMap, List.mem_filterMap,
    Option.map_eq_some_iff, MarkedField.mk.injEq]
  constructor
  · rintro ⟨found, hlevel, declared, hdecl, marker, hmarker, rfl, rfl, rfl⟩
    exact ⟨hlevel, hdecl, hmarker⟩
  · rintro ⟨hlevel, hdecl, hmarker⟩
    exact ⟨level, hlevel, fieldDecl, hdecl, marker, hmarker, rfl, rfl, rfl⟩

/-- Every argument that was found is what a marked field of some level declares. -/
theorem Tracks.exists_declaring {inherited : Bool} {diagnostics : Diagnostics}
    {collection : Collection} {levels : List Level}
    (h : Tracks table platform decl inherited diagnostics collection
      (select (markedFields platform levels)))
    {field : ArgField} (hfield : field ∈ collection.controller.arguments) :
    ∃ marked ∈ markedFields platform levels,
      marked.argument table platform (ofClass decl inherited).typeBounds
        = .ok (unresolved field) := by
  obtain ⟨arguments, hkept, hperm⟩ := h.arguments
  have hmem : unresolved field ∈ arguments := hperm.mem_iff.1 (List.mem_map_of_mem hfield)
  have hargument : Except.ok (unresolved field) ∈ arguments.map Except.ok :=
    List.mem_map_of_mem (f := (Except.ok : ArgField → Except ProcessingError ArgField)) hmem
  rw [← hkept, List.mem_map] at hargument
  obtain ⟨marked, hmarked, hargument⟩ := hargument
  rcases mem_of_mem_kept hmarked with hnone | hmarked
  · cases hnone
  · exact ⟨marked, hmarked, hargument⟩

/-- Every argument that was found is a marked field of some level. -/
theorem Tracks.exists_marked {inherited : Bool} {diagnostics : Diagnostics}
    {collection : Collection} {levels : List Level}
    (h : Tracks table platform decl inherited diagnostics collection
      (select (markedFields platform levels)))
    {field : ArgField} (hfield : field ∈ collection.controller.arguments) :
    ∃ marked ∈ markedFields platform levels, marked.Declares field := by
  obtain ⟨marked, hmarked, hargument⟩ := h.exists_declaring hfield
  exact ⟨marked, hmarked, (declares_of_argument hargument).of_unresolved⟩

/-- Every argument that was collected is a field of some level. -/
theorem exists_level_of_field {diagnostics : Diagnostics} {collection : Collection}
    (h : collect table platform decl diagnostics = .ok collection) {field : ArgField}
    (hfield : field ∈ collection.controller.fields) :
    ∃ level ∈ Level.ofController table platform decl (scanInherited platform decl diagnostics).1,
      ∃ fieldDecl ∈ level.decl.fields, field.name = fieldDecl.name ∧
        field.className = level.decl.name ∧
        field.type = fieldDecl.type.substitute level.bindings := by
  obtain ⟨marked, hmarked, hdeclares⟩ :=
    (tracks_of_collect h).exists_marked (mem_fields_iff.1 hfield)
  obtain ⟨hlevel, hfieldDecl, -⟩ := mem_markedFields_iff.1 hmarked
  exact ⟨marked.level, hlevel, marked.decl, hfieldDecl, hdeclares.name, hdeclares.className,
    hdeclares.type⟩

/-- Every setter that the controller remembers is a method of one of the levels. -/
def SettersFrom (levels : List Level) (controller : Controller) : Prop :=
  ∀ name candidate, controller.setter? name = some candidate →
    ∃ level ∈ levels, ∃ method ∈ level.decl.methods, candidateOf? level method = some candidate

/-- Every setter that a collection remembers is a method of some level. -/
theorem settersFrom_of_collect {diagnostics : Diagnostics} {collection : Collection}
    (h : collect table platform decl diagnostics = .ok collection) :
    SettersFrom (Level.ofController table platform decl
      (scanInherited platform decl diagnostics).1) collection.controller := by
  intro name candidate hfound
  obtain ⟨scanned, hscanned, hresolve⟩ := collect_eq_ok h
  rw [setter?, setters_resolveSetters hresolve] at hfound
  obtain ⟨method, hkept, -, hcandidate⟩ := hscanned.remembers.kept hfound
  obtain ⟨hlevel, hmethod⟩ := mem_levelMethods_iff.1 hkept.mem
  exact ⟨method.level, hlevel, method.decl, hmethod, hcandidate⟩

/-- A setter of a level has the parameter types that its method has at that level. -/
theorem candidateOf?_eq_some {level : Level} {method : MethodDecl} {candidate : SetterCandidate}
    (h : candidateOf? level method = some candidate) :
    candidate.name = method.name ∧ candidate.className = level.decl.name ∧
      candidate.parameters = method.parameters.map fun parameter =>
        parameter.type.substitute level.bindings := by
  have hcandidate : LevelMethod.candidate? ⟨level, method⟩ = some candidate := h
  obtain ⟨-, -, rfl⟩ := LevelMethod.candidate?_eq_some_iff.1 hcandidate
  exact ⟨rfl, rfl, rfl⟩

/-- A level whose class is not the controller is above the first one. -/
theorem mem_tail_of_name_ne {inherited : Bool} {level : Level}
    (hmem : level ∈ Level.ofController table platform decl inherited)
    (hname : level.decl.name ≠ decl.name) :
    level ∈ (Level.ofController table platform decl inherited).tail := by
  have hhead := Level.head?_ofController table platform decl inherited
  cases hlevels : Level.ofController table platform decl inherited with
  | nil =>
    rw [hlevels] at hmem
    cases hmem
  | cons first above =>
    rw [hlevels, List.head?_cons, Option.some.injEq] at hhead
    rw [hlevels, hhead] at hmem
    rcases List.mem_cons.1 hmem with rfl | hmem
    · exact absurd rfl hname
    · exact hmem

/-- On the way up from a class whose superclass references give all type arguments, what a level
binds are the type arguments of the view of the class as the class of that level. The inherited
arguments and setters of a collection therefore have the types that are declared, with the type
parameters replaced by the type arguments of that view. -/
theorem inheritedArguments_agree (table : ClassTable) (platform : Platform) (decl : ClassDecl)
    (diagnostics : Diagnostics) (hknown : table.find? decl.name = some decl)
    (hparameters : ∀ level ∈ Level.ofController table platform decl
      (scanInherited platform decl diagnostics).1, level.decl.typeParameterNames.Nodup)
    (hsupplies : (Level.ofController table platform decl
      (scanInherited platform decl diagnostics).1).IsChain Level.SuppliesArguments) :
    let above := (Level.ofController table platform decl
      (scanInherited platform decl diagnostics).1).tail
    (∀ level ∈ above, ∃ args,
      table.supertypeAs? decl.selfType level.decl.name = some (.declared level.decl.name args) ∧
        level.decl.typeParameterNames.map level.bindings.find? = args.map some ∧
        level.bindings = argumentBindings level.decl args) ∧
    ∀ collection, collect table platform decl diagnostics = .ok collection →
      (∀ field ∈ collection.controller.fields, field.className ≠ decl.name →
        ∃ level ∈ above, ∃ fieldDecl ∈ level.decl.fields, ∃ args,
          field.className = level.decl.name ∧ field.name = fieldDecl.name ∧
          table.supertypeAs? decl.selfType level.decl.name
            = some (.declared level.decl.name args) ∧
          field.type = fieldDecl.type.substitute (argumentBindings level.decl args)) ∧
      ∀ name candidate, collection.controller.setter? name = some candidate →
        candidate.className ≠ decl.name →
        ∃ level ∈ above, ∃ method ∈ level.decl.methods, ∃ args,
          candidate.className = level.decl.name ∧ candidate.name = method.name ∧
          table.supertypeAs? decl.selfType level.decl.name
            = some (.declared level.decl.name args) ∧
          candidate.parameters = method.parameters.map fun parameter =>
            parameter.type.substitute (argumentBindings level.decl args) := by
  intro above
  have hviews := Level.supertypeAs?_selfType hknown hparameters hsupplies
  refine ⟨fun level hmem => ⟨level.arguments, hviews level hmem⟩, fun collection hcollect => ?_⟩
  constructor
  · intro field hfield hinherited
    obtain ⟨level, hlevel, fieldDecl, hfieldDecl, hname, hclass, htype⟩ :=
      exists_level_of_field hcollect hfield
    have habove : level ∈ above := mem_tail_of_name_ne hlevel (hclass ▸ hinherited)
    obtain ⟨hview, -, hbindings⟩ := hviews level habove
    rw [hbindings] at htype
    exact ⟨level, habove, fieldDecl, hfieldDecl, level.arguments, hclass, hname, hview, htype⟩
  · intro name candidate hfound hinherited
    obtain ⟨level, hlevel, method, hmethod, hcandidate⟩ :=
      settersFrom_of_collect hcollect name candidate hfound
    obtain ⟨hname, hclass, hparameterTypes⟩ := candidateOf?_eq_some hcandidate
    have habove : level ∈ above := mem_tail_of_name_ne hlevel (hclass ▸ hinherited)
    obtain ⟨hview, -, hbindings⟩ := hviews level habove
    rw [hbindings] at hparameterTypes
    exact ⟨level, habove, method, hmethod, level.arguments, hclass, hname, hview,
      hparameterTypes⟩

/-! ### Three generic levels -/

/-- A class whose argument has the type of its type parameter. -/
def genericBase : ClassDecl :=
  { name := "Base", typeParameters := [{ name := "T" }],
    fields := [{ name := "names", type := .typeVariable "T", annotations := [⟨"Arg", .empty⟩] }],
    methods := [{ name := "setNames", parameters := [{ type := .typeVariable "T" }] }] }

/-- A class that uses the name of the type parameter again, for the elements of an array. -/
def genericMiddle : ClassDecl :=
  { name := "Middle", typeParameters := [{ name := "T" }],
    superclass? := some (.declared "Base" [.array (.typeVariable "T")]) }

/-- A controller with a type parameter of the same name that it does not pass on. -/
def genericController : ClassDecl :=
  { name := "Detail", typeParameters := [{ name := "T" }],
    superclass? := some (.declared "Middle" [.named "java.lang.String"]) }

/-- The three classes. -/
def genericTable : ClassTable :=
  ClassTable.empty.insertAll [genericBase, genericMiddle, genericController]

/-- The levels of the controller, with what the type parameters stand for. -/
def genericLevels : List Level :=
  [⟨genericController, []⟩, ⟨genericMiddle, [("T", .named "java.lang.String")]⟩,
    ⟨genericBase, [("T", .array (.named "java.lang.String"))]⟩]

theorem ofController_generic :
    Level.ofController genericTable {} genericController true = genericLevels := by
  have hmiddle : Level.parent? genericTable {} ⟨genericController, []⟩
      = some ⟨genericMiddle, [("T", .named "java.lang.String")]⟩ := rfl
  have hbase : Level.parent? genericTable {} ⟨genericMiddle, [("T", .named "java.lang.String")]⟩
      = some ⟨genericBase, [("T", .array (.named "java.lang.String"))]⟩ := rfl
  have htop : Level.parent? genericTable {}
      ⟨genericBase, [("T", .array (.named "java.lang.String"))]⟩ = none := rfl
  rw [Level.ofController, if_pos rfl, Level.climb_eq, hmiddle]
  dsimp only
  rw [if_neg (by decide), Level.climb_eq, hbase]
  dsimp only
  rw [if_neg (by decide), Level.climb_eq, htop]
  rfl

theorem collect_generic :
    ∃ collection, collect genericTable {} genericController ⟨true, []⟩ = .ok collection ∧
      collection.controller.arguments.map (·.className) = ["Base"] := by
  obtain ⟨collection, hcollect, hclasses⟩ := exists_collect_of_scan ⟨true, []⟩ ofController_generic
    (fun collection => decide (collection.controller.arguments.map (·.className) = ["Base"]))
    (by decide +kernel)
  exact ⟨collection, hcollect, of_decide_eq_true hclasses⟩

/-- The argument of the uppermost class is an array of strings, as the view of the controller as
that class says, although all three classes have a type parameter of one name. -/
theorem inheritedArguments_generic :
    ∃ collection, collect genericTable {} genericController ⟨true, []⟩ = .ok collection ∧
      collection.controller.arguments.map (·.className) = ["Base"] ∧
      ∀ field ∈ collection.controller.fields, field.className = "Base" →
        genericTable.supertypeAs? genericController.selfType "Base"
          = some (.declared "Base" [.array (.named "java.lang.String")]) ∧
        field.type = .array (.named "java.lang.String") := by
  obtain ⟨collection, hcollect, hclasses⟩ := collect_generic
  have hlevels : Level.ofController genericTable {} genericController
      (scanInherited {} genericController ⟨true, []⟩).1 = genericLevels := ofController_generic
  have hparameters : ∀ level ∈ genericLevels, level.decl.typeParameterNames.Nodup := by decide
  have hsupplies : genericLevels.IsChain Level.SuppliesArguments := by
    refine .cons_cons ?_ (.cons_cons ?_ (.singleton _))
    · rintro name args hsuperclass
      cases hsuperclass
      rfl
    · rintro name args hsuperclass
      cases hsuperclass
      rfl
  rw [← hlevels] at hparameters hsupplies
  obtain ⟨hviews, hcollected⟩ := inheritedArguments_agree genericTable {} genericController
    ⟨true, []⟩ rfl hparameters hsupplies
  rw [hlevels] at hviews hcollected
  refine ⟨collection, hcollect, hclasses, fun field hfield hclass => ?_⟩
  obtain ⟨level, hlevel, fieldDecl, hdeclared, args, hname, -, hview, htype⟩ :=
    (hcollected collection hcollect).1 field hfield (by rw [hclass]; decide)
  obtain ⟨viewArgs, hsame, hbound, -⟩ := hviews level hlevel
  rw [hview] at hsame
  obtain ⟨-, rfl⟩ := JavaType.declared.inj (Option.some.inj hsame)
  have hbase : level = ⟨genericBase, [("T", .array (.named "java.lang.String"))]⟩ := by
    rw [hclass] at hname
    rcases List.mem_cons.1 hlevel with rfl | hlevel
    · exact absurd hname (by decide)
    · exact List.mem_singleton.1 hlevel
  subst hbase
  have hargs : args = [.array (.named "java.lang.String")] := by
    cases args with
    | nil => cases hbound
    | cons arg rest =>
      obtain ⟨harg, hrest⟩ := List.cons.inj hbound
      rw [List.map_eq_nil_iff.1 hrest.symm, ← Option.some.inj harg]
  subst hargs
  rw [List.mem_singleton.1 hdeclared] at htype
  exact ⟨hview, htype⟩

end Controller

end BundleBuilder
