import BundleBuilder.Java.NameScope
import BundleBuilder.Proofs.JavaType.Formation
import BundleBuilder.Proofs.JavaType.Substitution

/-!
# Types as a unit writes them

Inside a unit the names of classes are shortened. The unit has a recursion of its own for writing a type,
which joins the texts of the type arguments, and it keeps in step with the one that writes types elsewhere,
argument by argument with separators in between: the text is that of the type whose classes have the short
names (`render_eq_text`). That type is read back from the text, with its type variables as bare names,
exactly if the short names can be read as names (`rendered_as_renamed`). A short name need not be of that
kind, even if the name of the class is: of an imported `kinds.int` only the keyword is left.

Renaming changes the names of the classes in a type and nothing else. So the question is which types can be
printed once their type variables are bare names: those that are formed and in which all names, of classes
and of type variables, are declarable (`isPrintableAt_unbound_iff`). What was read from a text is formed,
and its type variables were names in the text.
-/

set_option autoImplicit false

namespace BundleBuilder

namespace JavaType

/-! ## Renamed types -/

section Rename

variable (rename : String → String)

mutual

/-- The classes of a renamed type are the renamed classes. -/
theorem classNames_mapNames : ∀ type : JavaType,
    (type.mapNames rename).classNames = type.classNames.map rename
  | .declared name args => congrArg (rename name :: ·) (classNamesAll_mapNamesAll args)
  | .array element => classNames_mapNames element
  | .wildcardExtends bound | .wildcardSuper bound => classNames_mapNames bound
  | .primitive _ | .void | .typeVariable _ | .wildcard => rfl

theorem classNamesAll_mapNamesAll : ∀ types : List JavaType,
    classNamesAll (mapNamesAll rename types) = (classNamesAll types).map rename
  | [] => rfl
  | type :: types => by
    rw [mapNamesAll, classNamesAll, classNamesAll, List.map_append, classNames_mapNames type,
      classNamesAll_mapNamesAll types]

end

mutual

/-- Renaming classes changes no type variable. -/
theorem variableNames_mapNames : ∀ type : JavaType,
    (type.mapNames rename).variableNames = type.variableNames
  | .declared _ args => variableNamesAll_mapNamesAll args
  | .array element => variableNames_mapNames element
  | .wildcardExtends bound | .wildcardSuper bound => variableNames_mapNames bound
  | .primitive _ | .void | .typeVariable _ | .wildcard => rfl

theorem variableNamesAll_mapNamesAll : ∀ types : List JavaType,
    variableNamesAll (mapNamesAll rename types) = variableNamesAll types
  | [] => rfl
  | type :: types => by
    rw [mapNamesAll, variableNamesAll, variableNamesAll, variableNames_mapNames type,
      variableNamesAll_mapNamesAll types]

end

mutual

/-- Renaming classes changes nothing about where types stand. -/
theorem isFormedAt_mapNames : ∀ (type : JavaType) (place : Place),
    (type.mapNames rename).IsFormedAt place ↔ type.IsFormedAt place
  | .declared _ args, _ => areFormed_mapNamesAll args
  | .array element, _ => isFormedAt_mapNames element .element
  | .wildcardExtends bound, _ | .wildcardSuper bound, _ =>
    and_congr_right fun _ => isFormedAt_mapNames bound .element
  | .primitive _, _ | .void, _ | .typeVariable _, _ | .wildcard, _ => Iff.rfl

theorem areFormed_mapNamesAll : ∀ types : List JavaType,
    AreFormed (mapNamesAll rename types) ↔ AreFormed types
  | [] => Iff.rfl
  | type :: types =>
    and_congr (isFormedAt_mapNames type .argument) (areFormed_mapNamesAll types)

end

end Rename

/-! ## Type variables as bare names -/

mutual

/-- With its type variables as bare names, a formed type of declarable names can be printed, and no
other type can. -/
theorem isPrintableAt_unbound_iff : ∀ (type : JavaType) (place : Place),
    type.unbound.IsPrintableAt place ↔
      type.IsFormedAt place ∧ (∀ name ∈ type.classNames, IsDeclarable name) ∧
        ∀ name ∈ type.variableNames, IsDeclarable name
  | .declared name args, _ => by
    rw [unbound, IsPrintableAt, arePrintable_unboundAll_iff args, IsFormedAt, classNames,
      variableNames, List.forall_mem_cons, and_assoc, and_left_comm]
  | .typeVariable name, _ => by
    simp [unbound, IsPrintableAt, ArePrintable, IsFormedAt, classNames, variableNames]
  | .array element, _ => isPrintableAt_unbound_iff element .element
  | .wildcardExtends bound, _ | .wildcardSuper bound, _ => by
    rw [unbound, IsPrintableAt, isPrintableAt_unbound_iff bound .element, IsFormedAt, classNames,
      variableNames, and_assoc]
  | .primitive _, _ | .void, _ | .wildcard, _ => by
    simp [unbound, IsPrintableAt, IsFormedAt, classNames, variableNames]

theorem arePrintable_unboundAll_iff : ∀ types : List JavaType,
    ArePrintable (unboundAll types) ↔
      AreFormed types ∧ (∀ name ∈ classNamesAll types, IsDeclarable name) ∧
        ∀ name ∈ variableNamesAll types, IsDeclarable name
  | [] => by simp [unboundAll, ArePrintable, AreFormed, classNamesAll, variableNamesAll]
  | type :: types => by
    rw [unboundAll, ArePrintable, isPrintableAt_unbound_iff type .argument,
      arePrintable_unboundAll_iff types, AreFormed, classNamesAll, variableNamesAll,
      List.forall_mem_append, List.forall_mem_append]
    constructor
    · rintro ⟨⟨hformed, hclasses, hvariables⟩, hrest, hrestClasses, hrestVariables⟩
      exact ⟨⟨hformed, hrest⟩, ⟨hclasses, hrestClasses⟩, hvariables, hrestVariables⟩
    · rintro ⟨⟨hformed, hrest⟩, ⟨hclasses, hrestClasses⟩, hvariables, hrestVariables⟩
      exact ⟨⟨hformed, hclasses, hvariables⟩, hrest, hrestClasses, hrestVariables⟩

end

/-- The text of a renamed type is read as the renamed type, with its type variables as bare names, if the
type is formed and the names are declarable, and only then. -/
theorem parse_text_mapNames_iff (rename : String → String) (type : JavaType) :
    parse (type.mapNames rename).text = .ok (type.mapNames rename).unbound ↔
      type.IsFormedAt .whole ∧ (∀ name ∈ type.classNames, IsDeclarable (rename name)) ∧
        ∀ name ∈ type.variableNames, IsDeclarable name := by
  have hread : parse (type.mapNames rename).text = .ok (type.mapNames rename).unbound ↔
      (type.mapNames rename).unbound.IsPrintable :=
    ⟨isPrintable_of_parse, parse_eq_ok_of_text (text_unbound _)⟩
  rw [hread, IsPrintable, isPrintableAt_unbound_iff, isFormedAt_mapNames, classNames_mapNames,
    variableNames_mapNames, List.forall_mem_map]

/-! ## Variables of a type that was read -/

section Normalize

variable {params : List String}

mutual

/-- Type variables come from names that were read. -/
theorem IsPrintableAt.declarable_variables : ∀ (type : JavaType) {place : Place},
    type.IsPrintableAt place →
      ∀ name ∈ (type.normalize params).variableNames, IsDeclarable name
  | .declared declaredName args, _, h => by
    rw [normalize]
    split
    · intro name hname
      rw [List.mem_singleton.1 hname]
      exact h.1
    · exact ArePrintable.declarable_variables args h.2
  | .array element, _, h => IsPrintableAt.declarable_variables element h
  | .wildcardExtends bound, _, h | .wildcardSuper bound, _, h =>
    IsPrintableAt.declarable_variables bound h.2
  | .typeVariable _, _, h => h.elim
  | .primitive _, _, _ | .void, _, _ | .wildcard, _, _ => fun _ hname => nomatch hname

theorem ArePrintable.declarable_variables : ∀ types : List JavaType, ArePrintable types →
    ∀ name ∈ variableNamesAll (normalizeAll params types), IsDeclarable name
  | [], _ => fun _ hname => nomatch hname
  | type :: types, h =>
    List.forall_mem_append.2 ⟨IsPrintableAt.declarable_variables type h.1,
      ArePrintable.declarable_variables types h.2⟩

end

end Normalize

end JavaType

namespace Java

open JavaType

/-! ## The text of a type in a unit -/

section Render

variable (scope : NameScope)

mutual

/-- A unit writes a type as it writes itself once its classes are renamed: what the unit joins is what is
written one after the other. -/
theorem render_eq_text : ∀ type : JavaType, scope.render type = (type.mapNames scope.name).text
  | .declared name [] => by
    rw [NameScope.render, mapNames, mapNamesAll, text_declared]
    exact String.append_empty.symm
  | .declared name (arg :: args) => by
    rw [NameScope.render, mapNames, text_declared, renderAll_eq_map_text (arg :: args), mapNamesAll,
      List.map_cons, angled]
    · simp only [List.isEmpty_cons, Bool.false_eq_true, if_false, String.append_assoc]
    · exact List.cons_ne_nil _ _
  | .array element => by
    rw [NameScope.render, mapNames, text_array, render_eq_text element]
  | .wildcardExtends bound => by
    rw [NameScope.render, mapNames, text_wildcardExtends, render_eq_text bound]
  | .wildcardSuper bound => by
    rw [NameScope.render, mapNames, text_wildcardSuper, render_eq_text bound]
  | .typeVariable name => by
    rw [NameScope.render, mapNames, text_typeVariable]
  | .primitive _ | .void | .wildcard => by
    rw [NameScope.render, mapNames, text, writeTo, String.empty_append]

theorem renderAll_eq_map_text : ∀ types : List JavaType,
    scope.renderAll types = (mapNamesAll scope.name types).map text
  | [] => rfl
  | type :: types => by
    rw [NameScope.renderAll, mapNamesAll, List.map_cons, render_eq_text type,
      renderAll_eq_map_text types]

end

end Render

/-- The text of a type in a unit is that of the type with its classes renamed as the unit writes them.
If the type was read from a text and its names were resolved, then this text is read back as the renamed
type, with type variables as bare names, exactly if every class in it is written by a name that can be
read as one. -/
theorem rendered_as_renamed (scope : NameScope) :
    (∀ type : JavaType, scope.render type = (type.mapNames scope.name).text) ∧
    ∀ (text : String) (params : List String) (read : JavaType), parse text = .ok read →
      let type := read.normalize params
      parse (scope.render type) = .ok (type.mapNames scope.name).unbound ↔
        ∀ name ∈ type.classNames, IsDeclarable (scope.name name) := by
  refine ⟨render_eq_text scope, ?_⟩
  intro text params read hread type
  have hformed : type.IsFormedAt .whole := isFormed_of_parse params hread
  have hvariables : ∀ name ∈ type.variableNames, IsDeclarable name :=
    (isPrintable_of_parse hread).declarable_variables
  rw [render_eq_text, parse_text_mapNames_iff]
  exact ⟨fun h => h.2.1, fun hclasses => ⟨hformed, hclasses, hvariables⟩⟩

/-- An imported class, a class of the package, a class of the language and a type variable. -/
theorem rendered_as_renamed_map :
    let scope := ((NameScope.mk "app" .empty .empty []).declareLocal "app.Item").addImport
      "java.util.Map"
    let read : JavaType := .declared "java.util.Map"
      [.named "T", .wildcardExtends (.array (.declared "app.Item" [.named "String"]))]
    parse "java.util.Map<T, ? extends app.Item<String>[]>" = .ok read ∧
      scope.render (read.normalize ["T"]) = "Map<T, ? extends Item<String>[]>" ∧
      parse "Map<T, ? extends Item<String>[]>" = .ok (.declared "Map"
        [.named "T", .wildcardExtends (.array (.declared "Item" [.named "String"]))]) := by
  intro scope read
  have hread : parse "java.util.Map<T, ? extends app.Item<String>[]>" = .ok read :=
    parse_eq_ok_of_text (by decide +kernel) (by decide +kernel)
  have hwritten : scope.render (read.normalize ["T"]) = "Map<T, ? extends Item<String>[]>" := by
    decide +kernel
  have hrenamed : ((read.normalize ["T"]).mapNames scope.name).unbound = .declared "Map"
      [.named "T", .wildcardExtends (.array (.declared "Item" [.named "String"]))] := by
    decide +kernel
  refine ⟨hread, hwritten, ?_⟩
  rw [← hwritten, ← hrenamed]
  exact ((rendered_as_renamed scope).2 _ ["T"] read hread).2 (by decide +kernel)

/-- A class whose simple name is a keyword can be imported, and is then written like a primitive type. -/
example :
    ((NameScope.mk "app" .empty .empty []).addImport "kinds.int").render (.named "kinds.int")
      = (JavaType.primitive .int).text := by
  decide +kernel

end Java

end BundleBuilder
