import BundleBuilder.Proofs.Controller.Inheritance

/-!
# The type variables of collected arguments

The types of inherited arguments are rewritten level by level, so that they speak about the type
parameters of the controller. A class that declares no type variables but its own hands on what its
superclass reference says. The one exception is a type parameter for which that reference gives no
argument: it stands for its first bound, and a variable in that bound stays as it is. So a variable of
a collected type either is a type parameter that the controller itself hands to its superclass, or it
comes from such a bound (`collected_variables`); the second case does occur, and the variable is then
declared nowhere (`undeclared_variable_of_bound`).
-/

set_option autoImplicit false

namespace BundleBuilder

open ClassTable

/-! ## Scoped declarations -/

/-- Whether all type variables of a type are among some names. -/
def JavaType.IsOver (names : List String) (type : JavaType) : Prop :=
  ∀ name ∈ type.variableNames, name ∈ names

instance (names : List String) (type : JavaType) : Decidable (type.IsOver names) :=
  inferInstanceAs (Decidable (∀ name ∈ type.variableNames, name ∈ names))

/-- The types in a declaration that decide what is inherited and collected. -/
def ClassDecl.mentionedTypes (decl : ClassDecl) : List JavaType :=
  decl.typeParameters.flatMap (·.bounds) ++ decl.superclass?.toList ++ decl.interfaces ++
    decl.fields.map (·.type) ++
    decl.methods.flatMap fun method => method.parameters.map (·.type)

/-- Whether a class mentions only type variables that it declares itself. -/
def ClassDecl.IsScoped (decl : ClassDecl) : Prop :=
  ∀ type ∈ decl.mentionedTypes, type.IsOver decl.typeParameterNames

instance (decl : ClassDecl) : Decidable decl.IsScoped :=
  inferInstanceAs (Decidable (∀ type ∈ decl.mentionedTypes, type.IsOver decl.typeParameterNames))

namespace ClassDecl

variable {decl : ClassDecl}

theorem IsScoped.superclass (h : decl.IsScoped) {superclass : JavaType}
    (hsuperclass : decl.superclass? = some superclass) :
    superclass.IsOver decl.typeParameterNames := by
  apply h
  simp [mentionedTypes, hsuperclass]

theorem IsScoped.field (h : decl.IsScoped) {field : FieldDecl} (hfield : field ∈ decl.fields) :
    field.type.IsOver decl.typeParameterNames := by
  apply h
  simp only [mentionedTypes, List.mem_append, List.mem_map]
  exact .inl (.inr ⟨field, hfield, rfl⟩)

end ClassDecl

/-! ## One level -/

namespace Level

/-- The type parameters of the upper level for which the superclass reference of the lower level gives
no type argument. -/
def omitted (child parent : Level) : List TypeParameter :=
  match child.decl.superclass?.map (JavaType.substitute child.bindings) with
  | some (.declared _ args) => parent.decl.typeParameters.drop args.length
  | _ => []

/-- Whether a type parameter that is left without an argument somewhere on the way up has a first bound
with a type variable of this name. -/
def LeavesOpen (levels : List Level) (name : String) : Prop :=
  ∃ child parent, [child, parent] <:+: levels ∧
    ∃ parameter ∈ omitted child parent, name ∈ (erasure parameter).variableNames

theorem LeavesOpen.mono {levels more : List Level} {name : String} (h : LeavesOpen levels name)
    (hpart : levels <:+: more) : LeavesOpen more name := by
  obtain ⟨child, parent, hpair, hparameter⟩ := h
  exact ⟨child, parent, hpair.trans hpart, hparameter⟩

theorem map_fst_bind (parameters : List TypeParameter) :
    ∀ args : List JavaType, (bind parameters args).map Prod.fst = parameters.map (·.name) := by
  induction parameters with
  | nil =>
    intro args
    rfl
  | cons parameter parameters ih =>
    intro args
    cases args with
    | nil => simp [bind, ih]
    | cons arg args => simp [bind, ih]

/-- A type parameter is bound to a type argument, or to its erasure if there is none for it. -/
theorem mem_bind {entry : String × JavaType} {parameters : List TypeParameter} :
    ∀ {args : List JavaType}, entry ∈ bind parameters args →
      entry.2 ∈ args ∨ ∃ parameter ∈ parameters.drop args.length, entry.2 = erasure parameter := by
  induction parameters with
  | nil =>
    intro args h
    cases h
  | cons parameter parameters ih =>
    intro args h
    cases args with
    | nil =>
      rcases List.mem_cons.1 h with rfl | hrest
      · exact .inr ⟨parameter, List.mem_cons_self, rfl⟩
      · rcases ih hrest with harg | ⟨other, hother, heq⟩
        · cases harg
        · exact .inr ⟨other, List.mem_cons_of_mem _ hother, heq⟩
    | cons arg args =>
      rcases List.mem_cons.1 h with rfl | hrest
      · exact .inl List.mem_cons_self
      · rcases ih hrest with harg | hother
        · exact .inl (List.mem_cons_of_mem _ harg)
        · exact .inr hother

/-- A variable that is bound becomes one of the bound types. -/
theorem exists_entry_of_mem_keys {bindings : Bindings} {name : String}
    (h : name ∈ bindings.map Prod.fst) :
    ∃ entry ∈ bindings, (JavaType.typeVariable name).substitute bindings = entry.2 := by
  obtain ⟨type, htype⟩ := Bindings.exists_of_mem_keys h
  refine ⟨(name, type), Bindings.mem_of_lookupLast htype, ?_⟩
  rw [JavaType.substitute, Bindings.find?, htype]
  rfl

variable {table : ClassTable} {platform : Platform} {level parent : Level}

/-- Whether all variables of the superclass of a level, as the controller sees it, satisfy a
condition. -/
def HandsOn (accounted : String → Prop) (level : Level) : Prop :=
  ∀ superclass, level.decl.superclass? = some superclass →
    ∀ name ∈ (superclass.substitute level.bindings).variableNames, accounted name

/-- One level up, every type over the type parameters of the class has only variables that are handed
on, or that the first bound of a parameter without an argument leaves open. -/
theorem variables_of_parent {accounted : String → Prop} (hhands : HandsOn accounted level)
    (hparent : level.parent? table platform = some parent)
    (hopen : ∀ parameter ∈ omitted level parent, ∀ name ∈ (erasure parameter).variableNames,
      accounted name)
    {type : JavaType} (htype : type.IsOver parent.decl.typeParameterNames) :
    ∀ name ∈ (type.substitute parent.bindings).variableNames, accounted name := by
  obtain ⟨className, args, hsuperclass, -, hbindings⟩ := parent?_eq_some hparent
  obtain ⟨superclass, hown, hsubstituted⟩ := Option.map_eq_some_iff.1 hsuperclass
  intro name hname
  obtain ⟨source, hsource, hname⟩ := JavaType.exists_variable_of_substitute type hname
  have hbound : source ∈ parent.bindings.map Prod.fst := by
    rw [hbindings, map_fst_bind]
    exact htype source hsource
  obtain ⟨entry, hentry, hreplaced⟩ := exists_entry_of_mem_keys hbound
  rw [hreplaced] at hname
  rw [hbindings] at hentry
  rcases mem_bind hentry with harg | ⟨parameter, hparameter, herased⟩
  · apply hhands superclass hown
    rw [hsubstituted]
    exact JavaType.mem_variableNamesAll_iff.2 ⟨entry.2, harg, hname⟩
  · rw [herased] at hname
    refine hopen parameter ?_ name hname
    rw [omitted, hsuperclass]
    exact hparameter

/-! ## All levels -/

/-- From a level on upwards: what its superclass reference hands on, and what the bounds of parameters
without an argument leave open, accounts for the variables of every inherited field type. -/
theorem variables_of_chain {accounted : String → Prop} {levels : List Level}
    (hknown : ∀ name known, table.find? name = some known → known.IsScoped) :
    ∀ {level : Level}, HandsOn accounted level →
    (level :: levels).IsChain (fun child parent => child.parent? table platform = some parent) →
    (∀ name, LeavesOpen (level :: levels) name → accounted name) →
    ∀ above ∈ levels, ∀ field ∈ above.decl.fields,
      ∀ name ∈ (field.type.substitute above.bindings).variableNames, accounted name := by
  induction levels with
  | nil =>
    intro level _ _ _ above habove
    cases habove
  | cons parent levels ih =>
    intro level hhands hchain hopen
    obtain ⟨hparent, hchain⟩ := List.isChain_cons_cons.1 hchain
    have hscoped : parent.decl.IsScoped := by
      obtain ⟨name, -, -, hfind, -⟩ := parent?_eq_some hparent
      exact hknown name parent.decl hfind
    have hcovered : ∀ type : JavaType, type.IsOver parent.decl.typeParameterNames →
        ∀ name ∈ (type.substitute parent.bindings).variableNames, accounted name := by
      intro type htype
      refine variables_of_parent hhands hparent ?_ htype
      intro parameter hparameter name hname
      apply hopen
      exact ⟨level, parent, ⟨[], levels, rfl⟩, parameter, hparameter, hname⟩
    have hnext : HandsOn accounted parent := by
      intro superclass hsuperclass
      exact hcovered superclass (hscoped.superclass hsuperclass)
    intro above habove
    rcases List.mem_cons.1 habove with rfl | habove
    · intro field hfield
      exact hcovered field.type (hscoped.field hfield)
    · refine ih hnext hchain ?_ above habove
      intro name hleaves
      exact hopen name (hleaves.mono (List.infix_cons (List.infix_refl _)))

/-- At the first level nothing is bound, so types stay as they are. -/
theorem substitute_start (type : JavaType) : type.substitute [] = type :=
  JavaType.substitute_nil type

end Level

namespace Controller

variable {table : ClassTable} {platform : Platform} {decl : ClassDecl}

/-- The controller of a class keeps its type parameters. -/
theorem typeVariableNames_of_collect {diagnostics : Diagnostics} {collection : Collection}
    (h : collect table platform decl diagnostics = .ok collection) :
    collection.controller.typeVariableNames = decl.typeParameterNames :=
  (tracks_of_collect h).built.view_eq typeVariableNames fun _ _ _ _ _ _ => rfl

/-- Among classes that mention only their own type variables: every type variable of a collected
argument is a type parameter of the controller, which for an inherited argument stands in the
controller's superclass reference; or else it stands in the first bound of a type parameter for which
some superclass reference on the way gives no argument. Where no such bound has a type variable, the
collected types are therefore closed over the type parameters of the controller. -/
theorem collected_variables (table : ClassTable) (platform : Platform) (decl : ClassDecl)
    (diagnostics : Diagnostics)
    (hknown : ∀ name known, table.find? name = some known → known.IsScoped)
    (hscoped : decl.IsScoped) :
    let levels := Level.ofController table platform decl
      (scanInherited platform decl diagnostics).1
    ∀ collection, collect table platform decl diagnostics = .ok collection →
      ∀ field ∈ collection.controller.fields, ∀ name ∈ field.type.variableNames,
        (name ∈ collection.controller.typeVariableNames ∧
          (field.className ≠ decl.name →
            ∃ superclass, decl.superclass? = some superclass ∧
              name ∈ superclass.variableNames)) ∨
        ∃ child parent, [child, parent] <:+: levels ∧
          ∃ parameter ∈ Level.omitted child parent,
            name ∈ (Level.erasure parameter).variableNames := by
  intro levels collection hcollect field hfield name hname
  obtain ⟨level, hlevel, fieldDecl, hfieldDecl, -, hclass, htype⟩ :=
    exists_level_of_field hcollect hfield
  rw [htype] at hname
  rw [typeVariableNames_of_collect hcollect]
  obtain ⟨above, hlevels⟩ : ∃ above, levels = ⟨decl, []⟩ :: above :=
    List.head?_eq_some_iff.1 (Level.head?_ofController table platform decl _)
  have hchain : levels.IsChain fun child parent => child.parent? table platform = some parent :=
    Level.isChain_ofController table platform decl _
  have hmem : level ∈ levels := hlevel
  rw [hlevels] at hchain hmem
  rcases List.mem_cons.1 hmem with rfl | hinherited
  · rw [Level.substitute_start] at hname
    exact .inl ⟨hscoped.field hfieldDecl name hname, fun hother => absurd hclass hother⟩
  · let accounted : String → Prop := fun name =>
      (∃ superclass, decl.superclass? = some superclass ∧ name ∈ superclass.variableNames) ∨
        Level.LeavesOpen levels name
    have hhands : Level.HandsOn accounted ⟨decl, []⟩ := by
      intro superclass hsuperclass name hname
      rw [Level.substitute_start] at hname
      exact .inl ⟨superclass, hsuperclass, hname⟩
    have hopen : ∀ name, Level.LeavesOpen (⟨decl, []⟩ :: above) name → accounted name := by
      intro name hleaves
      rw [← hlevels] at hleaves
      exact .inr hleaves
    rcases Level.variables_of_chain hknown hhands hchain hopen level hinherited fieldDecl
      hfieldDecl name hname with ⟨superclass, hsuperclass, hown⟩ | hleaves
    · exact .inl ⟨hscoped.superclass hsuperclass name hown,
        fun _ => ⟨superclass, hsuperclass, hown⟩⟩
    · exact .inr hleaves

/-! ### A bound that mentions its own parameter -/

/-- A class whose type parameter is bounded by a type over itself; its argument is an array of it. -/
def sortedDecl : ClassDecl :=
  { name := "Sorted",
    typeParameters :=
      [{ name := "T", bounds := [.declared "java.lang.Comparable" [.typeVariable "T"]] }],
    fields := [{ name := "items", type := .array (.typeVariable "T"),
                 annotations := [⟨"Arg", .empty⟩] }] }

/-- A controller below it with the given type parameters and type arguments. -/
def sortedBelow (parameters args : List String) : ClassDecl :=
  { name := "Detail",
    typeParameters := parameters.map fun parameter => { name := parameter },
    superclass? := some (.declared "Sorted" (args.map .typeVariable)) }

/-- The two classes. -/
def sortedTable (parameters args : List String) : ClassTable :=
  ClassTable.empty.insertAll [sortedDecl, sortedBelow parameters args]

theorem ofController_sorted (parameters args : List String) :
    Level.ofController (sortedTable parameters args) {} (sortedBelow parameters args) true
      = [⟨sortedBelow parameters args, []⟩,
          ⟨sortedDecl, Level.bind sortedDecl.typeParameters (args.map .typeVariable)⟩] := by
  have hsuperclass : (sortedBelow parameters args).superclass?.map (JavaType.substitute [])
      = some (.declared "Sorted" (args.map .typeVariable)) :=
    congrArg some (Level.substitute_start _)
  have hup : Level.parent? (sortedTable parameters args) {} ⟨sortedBelow parameters args, []⟩
      = some ⟨sortedDecl, Level.bind sortedDecl.typeParameters (args.map .typeVariable)⟩ := by
    rw [Level.parent?]
    dsimp only
    rw [hsuperclass]
    rfl
  have htop : Level.parent? (sortedTable parameters args) {}
      ⟨sortedDecl, Level.bind sortedDecl.typeParameters (args.map .typeVariable)⟩ = none := rfl
  have hnew : ¬ [(sortedBelow parameters args).name].contains sortedDecl.name = true := by
    rw [show (sortedBelow parameters args).name = "Detail" from rfl]
    decide
  rw [Level.ofController]
  rw [if_pos rfl, Level.climb_eq, hup]
  dsimp only
  rw [if_neg hnew, Level.climb_eq, htop]

theorem isScoped_sorted {parameters args : List String}
    (hbelow : (sortedBelow parameters args).IsScoped) (name : String) (known : ClassDecl)
    (hfind : (sortedTable parameters args).find? name = some known) : known.IsScoped := by
  have hmem := mem_classes_of_find? hfind
  have hclasses : (sortedTable parameters args).classes
      = [sortedDecl, sortedBelow parameters args] := rfl
  rw [hclasses] at hmem
  rcases List.mem_cons.1 hmem with rfl | hmem
  · decide
  · rw [List.mem_singleton.1 hmem]
    exact hbelow

/-- With a type argument for the parameter, the collected type speaks about the parameter of the
controller. -/
theorem collected_variables_sorted :
    (∀ name known, (sortedTable ["P"] ["P"]).find? name = some known → known.IsScoped) ∧
      (sortedBelow ["P"] ["P"]).IsScoped ∧
      ∃ collection,
        collect (sortedTable ["P"] ["P"]) {} (sortedBelow ["P"] ["P"]) ⟨true, []⟩
          = .ok collection ∧
        collection.controller.arguments.map (·.type) = [.array (.typeVariable "P")] ∧
        ∀ field ∈ collection.controller.fields, ∀ name ∈ field.type.variableNames,
          name ∈ collection.controller.typeVariableNames := by
  have hbelow : (sortedBelow ["P"] ["P"]).IsScoped := by decide
  have hknown := isScoped_sorted hbelow
  obtain ⟨collection, hcollect, htypes⟩ := exists_collect_of_scan
    ⟨true, []⟩ (ofController_sorted ["P"] ["P"])
    (fun collection => decide (collection.controller.arguments.map (·.type)
      = [.array (.typeVariable "P")])) (by decide +kernel)
  refine ⟨hknown, hbelow, collection, hcollect, of_decide_eq_true htypes, ?_⟩
  intro field hfield name hname
  rcases collected_variables _ _ _ _ hknown hbelow collection hcollect field hfield name hname with
    ⟨hparameter, -⟩ | ⟨child, parent, hpair, parameter, hparameter, -⟩
  · exact hparameter
  · -- The only superclass reference gives the only parameter an argument.
    have hlevels : [child, parent] <:+: [⟨sortedBelow ["P"] ["P"], []⟩,
        ⟨sortedDecl, Level.bind sortedDecl.typeParameters (["P"].map .typeVariable)⟩] := by
      rw [← ofController_sorted ["P"] ["P"]]
      exact hpair
    cases hlevels.eq_of_length rfl
    cases hparameter

/-- Without a type argument the bound stands for the parameter as it is declared, and its variable is
not a type parameter of the controller. -/
theorem undeclared_variable_of_bound :
    (∀ name known, (sortedTable [] []).find? name = some known → known.IsScoped) ∧
      (sortedBelow [] []).IsScoped ∧
      ∃ collection, collect (sortedTable [] []) {} (sortedBelow [] []) ⟨true, []⟩
          = .ok collection ∧
        ∃ field ∈ collection.controller.fields, "T" ∈ field.type.variableNames ∧
          "T" ∉ collection.controller.typeVariableNames := by
  have hbelow : (sortedBelow [] []).IsScoped := by decide
  obtain ⟨collection, hcollect, hview⟩ := exists_collect_of_scan
    ⟨true, []⟩ (ofController_sorted [] [])
    (fun collection => collection.controller.arguments.any fun field =>
      decide ("T" ∈ field.type.variableNames)) (by decide +kernel)
  obtain ⟨field, hfield, hmem⟩ := List.any_eq_true.1 hview
  refine ⟨isScoped_sorted hbelow, hbelow, collection, hcollect, field, mem_fields_iff.2 hfield,
    of_decide_eq_true hmem, ?_⟩
  rw [typeVariableNames_of_collect hcollect]
  decide

end Controller

end BundleBuilder
