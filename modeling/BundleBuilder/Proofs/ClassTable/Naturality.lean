import BundleBuilder.Proofs.ClassTable.Views
import BundleBuilder.Proofs.JavaType.Composition

/-!
# Views of substituted types

A type can first have its variables replaced and then be viewed as an instance of a class, or the
other way round. Both give the same (`supertypeAs?_substitute`) if the supertypes of a class mention
only its own type parameters and a known class is used either without arguments or with one for each
parameter.

The names of variables may coincide. What keeps them apart is that a step replaces every variable of
the declared supertype at once: as each of them is bound to an argument, none is left that the outer
substitution could capture. Which classes the search enters depends on their names only, and these a
substitution does not touch.
-/

set_option autoImplicit false

namespace BundleBuilder

namespace JavaType

theorem isEmpty_substituteAll (bindings : Bindings) (types : List JavaType) :
    (substituteAll bindings types).isEmpty = types.isEmpty := by
  cases types <;> rfl

theorem length_substituteAll (bindings : Bindings) (types : List JavaType) :
    (substituteAll bindings types).length = types.length := by
  rw [substituteAll_eq_map, List.length_map]

end JavaType

namespace ClassTable

variable {table : ClassTable} {bindings : Bindings}

/-! ## Scoped supertypes -/

/-- A declared type whose class, if it is known, has no arguments or one for each type parameter. -/
def IsApplied (table : ClassTable) : JavaType → Prop
  | .declared name args => ∀ arity ∈ table.arity? name, args = [] ∨ args.length = arity
  | _ => False

instance (table : ClassTable) : DecidablePred table.IsApplied
  | .declared name args =>
    inferInstanceAs (Decidable (∀ arity ∈ table.arity? name, args = [] ∨ args.length = arity))
  | .primitive _ | .void | .array _ | .typeVariable _ | .wildcard | .wildcardExtends _
  | .wildcardSuper _ => inferInstanceAs (Decidable False)

/-- Superclasses and interfaces are applied declared types in which only the type parameters of the
class stand for something. -/
def HasScopedSupertypes (table : ClassTable) : Prop :=
  ∀ decl ∈ table.classes, ∀ type ∈ decl.superclass?.toList ++ decl.interfaces,
    table.IsApplied type ∧ ∀ name ∈ type.variableNames, name ∈ decl.typeParameterNames

instance (table : ClassTable) : Decidable table.HasScopedSupertypes :=
  inferInstanceAs (Decidable (∀ decl ∈ table.classes,
    ∀ type ∈ decl.superclass?.toList ++ decl.interfaces,
      table.IsApplied type ∧ ∀ name ∈ type.variableNames, name ∈ decl.typeParameterNames))

theorem IsApplied.named (name : String) : table.IsApplied (.named name) := fun _ _ => .inl rfl

/-- Erasing leaves an applied type applied. -/
theorem IsApplied.erase {type : JavaType} (h : table.IsApplied type) :
    table.IsApplied type.erase := by
  cases type with
  | declared name args => exact .named name
  | _ => exact h

/-- Substituting leaves an applied type applied, because it keeps the number of the arguments. -/
theorem IsApplied.substitute {type : JavaType} (h : table.IsApplied type) :
    table.IsApplied (type.substitute bindings) := by
  cases type with
  | declared name args =>
    intro arity harity
    rcases h arity harity with rfl | hlength
    · exact .inl rfl
    · exact .inr ((JavaType.length_substituteAll bindings args).trans hlength)
  | _ => exact h.elim

/-- The supertypes that a class declares are applied and scoped; the root has nothing in it. -/
theorem HasScopedSupertypes.of_mem (h : table.HasScopedSupertypes) {decl : ClassDecl}
    (hknown : decl ∈ table.classes) {type : JavaType} (hmem : type ∈ directSupertypes decl) :
    table.IsApplied type ∧ ∀ name ∈ type.variableNames, name ∈ decl.typeParameterNames := by
  cases mem_directSupertypes_iff.1 hmem with
  | superclass hnamed => exact h decl hknown _ (List.mem_append_left _ (Option.mem_toList.2 hnamed))
  | interface hmem => exact h decl hknown _ (List.mem_append_right _ hmem)
  | root => exact ⟨.named objectName, fun _ hname => nomatch hname⟩

/-! ## One step -/

/-- The supertypes of an applied class are applied. -/
theorem HasScopedSupertypes.isApplied_step (h : table.HasScopedSupertypes) {decl : ClassDecl}
    (hknown : decl ∈ table.classes) (args : List JavaType) {upper : JavaType}
    (hupper : upper ∈ supertypeStep decl args) : table.IsApplied upper := by
  rw [supertypeStep] at hupper
  split at hupper
  · obtain ⟨type, hmem, rfl⟩ := List.mem_map.1 hupper
    exact (h.of_mem hknown hmem).1.erase
  · obtain ⟨type, hmem, rfl⟩ := List.mem_map.1 hupper
    exact (h.of_mem hknown hmem).1.substitute

/-- The supertypes of a class with substituted arguments are its supertypes, substituted. -/
theorem HasScopedSupertypes.step_substitute (h : table.HasScopedSupertypes) {name : String}
    {decl : ClassDecl} (hfind : table.find? name = some decl) {args : List JavaType}
    (happlied : table.IsApplied (.declared name args)) :
    supertypeStep decl (JavaType.substituteAll bindings args) =
      (supertypeStep decl args).map (JavaType.substitute bindings) := by
  have hknown := mem_classes_of_find? hfind
  have harity : table.arity? name = some decl.typeParameters.length := by rw [arity?, hfind]; rfl
  rw [supertypeStep, supertypeStep, JavaType.isEmpty_substituteAll]
  split
  · rw [List.map_map]
    refine List.map_congr_left fun type hmem => ?_
    have hdeclared := (h.of_mem hknown hmem).1
    cases type with
    | declared other otherArgs => rfl
    | _ => exact hdeclared.elim
  · next hnotRaw =>
    have hlength : args.length = decl.typeParameters.length := by
      rcases happlied _ harity with rfl | hlength
      · have hnone : decl.typeParameters = [] := by simpa using hnotRaw
        rw [hnone]
        rfl
      · exact hlength
    have hnames : args.length = decl.typeParameterNames.length := by
      rw [hlength, ClassDecl.typeParameterNames, List.length_map]
    rw [List.map_map, JavaType.substituteAll_eq_map]
    refine List.map_congr_left fun type hmem => ?_
    exact (JavaType.substitute_zip hnames (h.of_mem hknown hmem).2 bindings).symm

/-! ## The whole search -/

/-- A search among substituted types finds what the search among the types finds, substituted. -/
theorem HasScopedSupertypes.search_substitute (h : table.HasScopedSupertypes) (target : String)
    (entered : List String) (pending : List JavaType)
    (hpending : ∀ type ∈ pending, table.IsApplied type) :
    searchSupertype table target entered (pending.map (JavaType.substitute bindings)) =
      (searchSupertype table target entered pending).map (JavaType.substitute bindings) := by
  -- The searches run side by side: they look at types of the same names.
  induction entered, pending using searchSupertype.induct table target with
  | case1 entered => rw [List.map_nil, searchSupertype, Option.map_none]
  | case2 entered args pending =>
    rw [List.map_cons, JavaType.substitute, searchSupertype_declared, searchSupertype_declared,
      if_pos rfl, if_pos rfl, Option.map_some, JavaType.substitute]
  | case3 entered name args pending hother hseen ih =>
    rw [List.map_cons, JavaType.substitute, searchSupertype_declared, searchSupertype_declared,
      if_neg hother, if_neg hother, if_pos hseen, if_pos hseen]
    exact ih (List.forall_mem_cons.1 hpending).2
  | case4 entered name args pending hother hnew hfind ih =>
    rw [List.map_cons, JavaType.substitute, searchSupertype_declared, searchSupertype_declared,
      if_neg hother, if_neg hother, if_neg hnew, if_neg hnew, hfind]
    exact ih (List.forall_mem_cons.1 hpending).2
  | case5 entered name args pending hother hnew decl hfind ih =>
    obtain ⟨happlied, hrest⟩ := List.forall_mem_cons.1 hpending
    rw [List.map_cons, JavaType.substitute, searchSupertype_declared, searchSupertype_declared,
      if_neg hother, if_neg hother, if_neg hnew, if_neg hnew, hfind]
    dsimp only
    rw [h.step_substitute hfind happlied, ← List.map_append]
    apply ih
    intro type hmem
    rcases List.mem_append.1 hmem with hstep | hmem
    · exact h.isApplied_step (mem_classes_of_find? hfind) args hstep
    · exact hrest type hmem
  | case6 entered type pending hdeclared ih =>
    have happlied := hpending type List.mem_cons_self
    cases type with
    | declared name args => exact (hdeclared name args rfl).elim
    | _ => exact happlied.elim

/-- Substituting in a declared type and viewing it as an instance of a class can be exchanged: the
view of the substituted type is the substituted view of the type, and one is missing where the other
is. The type parameters of a class need not have different names. -/
theorem supertypeAs?_substitute (table : ClassTable) (h : table.HasScopedSupertypes)
    (bindings : Bindings) {type : JavaType} (happlied : table.IsApplied type) (target : String) :
    table.supertypeAs? (type.substitute bindings) target =
      (table.supertypeAs? type target).map (JavaType.substitute bindings) :=
  h.search_substitute target [] [type] fun _ hmem => List.mem_singleton.1 hmem ▸ happlied

/-! ### Swapped variables -/

/-- Pairs, and pairs the other way round, with the same names of type parameters. -/
def pairClasses : ClassTable :=
  empty.insertAll
    [ { name := "Holder", kind := .interfaceKind, typeParameters := [{ name := "T" }] },
      { name := "Pair", typeParameters := [{ name := "T" }, { name := "U" }],
        interfaces := [.declared "Holder" [.typeVariable "U"]] },
      { name := "Swap", typeParameters := [{ name := "T" }, { name := "U" }],
        superclass? := some (.declared "Pair" [.typeVariable "U", .array (.typeVariable "T")]) } ]

/-- The bindings that exchange two variables. -/
def exchange : Bindings := [("T", .typeVariable "U"), ("U", .typeVariable "T")]

/-- Exchanging the variables of a type exchanges them in its view, although the classes on the way
have type parameters of the same names. -/
theorem supertypeAs?_substitute_swap :
    let type : JavaType := .declared "Swap" [.typeVariable "T", .named "Item"]
    pairClasses.HasScopedSupertypes ∧ pairClasses.IsApplied type ∧
      pairClasses.supertypeAs? (type.substitute exchange) "Holder" =
        some (.declared "Holder" [.array (.typeVariable "U")]) := by
  intro type
  have hscoped : pairClasses.HasScopedSupertypes := by decide +kernel
  have happlied : pairClasses.IsApplied type := by decide +kernel
  have hview : pairClasses.supertypeAs? type "Holder" =
      some (.declared "Holder" [.array (.typeVariable "T")]) := by
    have hswap : (pairClasses.find? "Swap").map (supertypeStep · [.typeVariable "T", .named "Item"]) =
        some [.declared "Pair" [.named "Item", .array (.typeVariable "T")]] := by decide +kernel
    have hpair : (pairClasses.find? "Pair").map
          (supertypeStep · [.named "Item", .array (.typeVariable "T")]) =
        some [.named objectName, .declared "Holder" [.array (.typeVariable "T")]] := by
      decide +kernel
    rw [supertypeAs?, searchSupertype_enter (by decide) (by decide) hswap, List.cons_append,
      searchSupertype_enter (by decide) (by decide) hpair, List.cons_append, JavaType.named,
      searchSupertype_unknown (by decide) (by decide +kernel), List.cons_append,
      searchSupertype_found]
  refine ⟨hscoped, happlied, ?_⟩
  rw [supertypeAs?_substitute pairClasses hscoped exchange happlied, hview]
  rfl

-- With an argument missing, a variable of the class is left in the view, and a substitution behind
-- the view would capture it.
example : ¬ pairClasses.IsApplied (.declared "Pair" [.named "Item"]) ∧
    pairClasses.supertypeAs? (.declared "Pair" [.named "Item"]) "Holder" =
      some (.declared "Holder" [.typeVariable "U"]) := by
  have hpair : (pairClasses.find? "Pair").map (supertypeStep · [.named "Item"]) =
      some [.named objectName, .declared "Holder" [.typeVariable "U"]] := by
    decide +kernel
  refine ⟨by decide +kernel, ?_⟩
  rw [supertypeAs?, searchSupertype_enter (by decide) (by decide) hpair, List.cons_append,
    JavaType.named, searchSupertype_unknown (by decide) (by decide +kernel), List.cons_append,
    searchSupertype_found]

end ClassTable

end BundleBuilder
