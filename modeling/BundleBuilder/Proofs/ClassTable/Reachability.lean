import BundleBuilder.ClassTable.Supertype
import BundleBuilder.Proofs.Table.Lookup
import Mathlib.Logic.Relation

/-!
# What the supertype search finds

One step leads from a declared type to a supertype that its class declares, with the type arguments
put in or, for a raw type, left out. The search finds a type exactly if such steps lead to a type of
the target's name (`supertypeSearch_sound_complete`), whatever circles, diamonds and unknown classes
the table has.

Soundness is an induction over the search. For completeness the type arguments do not matter: which
names lie above a class depends on its declaration alone, unless a supertype is a type variable. On
names, a search that does not enter a class again misses nothing, because a way to the target that
passes through an entered class can be cut off at its last visit there.
-/

set_option autoImplicit false

namespace BundleBuilder

open Table Relation

namespace JavaType

/-- Whether a type is a type variable. -/
def isTypeVariable : JavaType → Bool
  | .typeVariable _ => true
  | _ => false

theorem declaredName?_erase (type : JavaType) : type.erase.declaredName? = type.declaredName? := by
  cases type <;> rfl

theorem declaredName?_substitute {type : JavaType} (h : type.isTypeVariable = false)
    (bindings : Bindings) : (type.substitute bindings).declaredName? = type.declaredName? := by
  cases type with
  | typeVariable name => cases h
  | _ => rfl

theorem exists_of_declaredName? {type : JavaType} {name : String}
    (h : type.declaredName? = some name) : ∃ args, type = .declared name args := by
  cases type with
  | declared other args =>
    rw [← Option.some.inj h]
    exact ⟨args, rfl⟩
  | _ => cases h

end JavaType

/-- A class as a type, with its type parameters as type arguments. -/
def ClassDecl.selfType (decl : ClassDecl) : JavaType :=
  .declared decl.name (decl.typeParameterNames.map .typeVariable)

namespace ClassTable

/-! ## Steps -/

/-- A supertype that a class declares: its superclass, the root where a class names none, or one of
its interfaces. -/
inductive DirectSupertype (decl : ClassDecl) : JavaType → Prop where
  | superclass {type : JavaType} : decl.superclass? = some type → DirectSupertype decl type
  | root : decl.superclass? = none → decl.kind = .classKind → decl.name ≠ objectName →
      DirectSupertype decl (.named objectName)
  | interface {type : JavaType} : type ∈ decl.interfaces → DirectSupertype decl type

theorem mem_directSupertypes_iff {decl : ClassDecl} {type : JavaType} :
    type ∈ directSupertypes decl ↔ DirectSupertype decl type := by
  rw [directSupertypes, List.mem_append]
  constructor
  · rintro (hsuperclass | hinterface)
    · cases hnamed : decl.superclass? with
      | some superclass =>
        rw [hnamed] at hsuperclass
        rw [List.mem_singleton.1 hsuperclass]
        exact .superclass hnamed
      | none =>
        rw [hnamed] at hsuperclass
        dsimp only at hsuperclass
        split at hsuperclass
        · next hroot =>
          rw [List.mem_singleton.1 hsuperclass]
          exact .root hnamed hroot.1 hroot.2
        · cases hsuperclass
    · exact .interface hinterface
  · rintro (hnamed | ⟨hnamed, hkind, hname⟩ | hinterface)
    · rw [hnamed]
      exact .inl List.mem_cons_self
    · rw [hnamed]
      dsimp only
      rw [if_pos ⟨hkind, hname⟩]
      exact .inl List.mem_cons_self
    · exact .inr hinterface

/-- One step from a declared type to a supertype. A raw type has an erased supertype, any other one
has its type arguments put in for the type parameters of its class. -/
inductive SupertypeStep (table : ClassTable) : JavaType → JavaType → Prop where
  | raw {name : String} {decl : ClassDecl} {type : JavaType} :
      table.find? name = some decl → decl.typeParameters ≠ [] → DirectSupertype decl type →
      SupertypeStep table (.declared name []) type.erase
  | applied {name : String} {args : List JavaType} {decl : ClassDecl} {type : JavaType} :
      table.find? name = some decl → (args ≠ [] ∨ decl.typeParameters = []) →
      DirectSupertype decl type →
      SupertypeStep table (.declared name args) (type.substitute (argumentBindings decl args))

/-- Any number of steps from a type to a supertype. -/
abbrev Reaches (table : ClassTable) : JavaType → JavaType → Prop :=
  ReflTransGen (SupertypeStep table)

theorem supertypeStep_iff {table : ClassTable} {name : String} {args : List JavaType}
    {upper : JavaType} :
    SupertypeStep table (.declared name args) upper ↔
      ∃ decl, table.find? name = some decl ∧ upper ∈ supertypeStep decl args := by
  constructor
  · rintro (⟨hfind, hgeneric, hdirect⟩ | ⟨hfind, hargs, hdirect⟩)
    · refine ⟨_, hfind, ?_⟩
      rw [supertypeStep, if_pos ⟨rfl, by simpa using hgeneric⟩]
      exact List.mem_map_of_mem (mem_directSupertypes_iff.2 hdirect)
    · refine ⟨_, hfind, ?_⟩
      rw [supertypeStep, if_neg ?_]
      · exact List.mem_map_of_mem (mem_directSupertypes_iff.2 hdirect)
      · rintro ⟨hempty, hgeneric⟩
        rcases hargs with hargs | hargs
        · exact hargs (List.isEmpty_iff.1 hempty)
        · exact hgeneric (List.isEmpty_iff.2 hargs)
  · rintro ⟨decl, hfind, hmem⟩
    rw [supertypeStep] at hmem
    split at hmem
    · next hraw =>
      obtain ⟨type, hdirect, rfl⟩ := List.mem_map.1 hmem
      have hargs : args = [] := List.isEmpty_iff.1 hraw.1
      subst hargs
      exact .raw hfind (by simpa using hraw.2) (mem_directSupertypes_iff.1 hdirect)
    · next hnotRaw =>
      obtain ⟨type, hdirect, rfl⟩ := List.mem_map.1 hmem
      refine .applied hfind ?_ (mem_directSupertypes_iff.1 hdirect)
      by_cases hargs : args = []
      · subst hargs
        exact .inr (by simpa using hnotRaw)
      · exact .inl hargs

/-! ## Soundness -/

/-- One round of the search looks at the first pending type. -/
theorem searchSupertype_declared (table : ClassTable) (target : String) (entered : List String)
    (name : String) (args pending : List JavaType) :
    searchSupertype table target entered (.declared name args :: pending) =
      if name = target then some (.declared name args)
      else if entered.contains name = true then searchSupertype table target entered pending
      else match table.find? name with
        | none => searchSupertype table target entered pending
        | some decl =>
          searchSupertype table target (name :: entered) (supertypeStep decl args ++ pending) := by
  rw [searchSupertype]
  split
  · rfl
  · split
    · rfl
    · split <;> simp_all

/-- The search ends at a type of the target's name. -/
theorem searchSupertype_found (table : ClassTable) (target : String) (entered : List String)
    (args pending : List JavaType) :
    searchSupertype table target entered (.declared target args :: pending) =
      some (.declared target args) := by
  rw [searchSupertype_declared, if_pos rfl]

/-- A class that is entered is replaced by what lies one step above it. -/
theorem searchSupertype_enter {table : ClassTable} {target name : String} {entered : List String}
    {args uppers : List JavaType} (hother : name ≠ target) (hnew : name ∉ entered)
    (hstep : (table.find? name).map (fun decl => supertypeStep decl args) = some uppers)
    (pending : List JavaType) :
    searchSupertype table target entered (.declared name args :: pending) =
      searchSupertype table target (name :: entered) (uppers ++ pending) := by
  obtain ⟨decl, hfind, rfl⟩ := Option.map_eq_some_iff.1 hstep
  rw [searchSupertype_declared, if_neg hother, if_neg (by simpa using hnew), hfind]

/-- The search passes over a class that is not known. -/
theorem searchSupertype_unknown {table : ClassTable} {target name : String} {entered : List String}
    (hother : name ≠ target) (hfind : table.find? name = none) (args pending : List JavaType) :
    searchSupertype table target entered (.declared name args :: pending) =
      searchSupertype table target entered pending := by
  rw [searchSupertype_declared, if_neg hother, hfind]
  split <;> rfl

/-- What the search finds has the name of the target and lies above a pending type. -/
theorem reaches_of_search {table : ClassTable} {target : String} {entered : List String}
    {pending : List JavaType} {found : JavaType}
    (h : searchSupertype table target entered pending = some found) :
    (∃ args, found = .declared target args) ∧ ∃ type ∈ pending, Reaches table type found := by
  induction entered, pending using searchSupertype.induct table target with
  | case1 entered =>
    rw [searchSupertype] at h
    cases h
  | case2 entered args pending =>
    rw [searchSupertype_declared, if_pos rfl] at h
    rw [← Option.some.inj h]
    exact ⟨⟨args, rfl⟩, _, List.mem_cons_self, .refl⟩
  | case3 entered name args pending hother hseen ih =>
    rw [searchSupertype_declared, if_neg hother, if_pos hseen] at h
    obtain ⟨hname, type, hmem, hreaches⟩ := ih h
    exact ⟨hname, type, List.mem_cons_of_mem _ hmem, hreaches⟩
  | case4 entered name args pending hother hnew hfind ih =>
    rw [searchSupertype_declared, if_neg hother, if_neg hnew, hfind] at h
    obtain ⟨hname, type, hmem, hreaches⟩ := ih h
    exact ⟨hname, type, List.mem_cons_of_mem _ hmem, hreaches⟩
  | case5 entered name args pending hother hnew decl hfind ih =>
    rw [searchSupertype_declared, if_neg hother, if_neg hnew, hfind] at h
    obtain ⟨hname, type, hmem, hreaches⟩ := ih h
    refine ⟨hname, ?_⟩
    -- The first type of the way was pending before, or is one step above the entered one.
    rcases List.mem_append.1 hmem with hstep | hmem
    · have hfirst := supertypeStep_iff.2 ⟨decl, hfind, hstep⟩
      exact ⟨_, List.mem_cons_self, .head hfirst hreaches⟩
    · exact ⟨type, List.mem_cons_of_mem _ hmem, hreaches⟩
  | case6 entered type pending hdeclared ih =>
    rw [searchSupertype] at h
    · obtain ⟨hname, type, hmem, hreaches⟩ := ih h
      exact ⟨hname, type, List.mem_cons_of_mem _ hmem, hreaches⟩
    · exact hdeclared

/-! ## Names above a class -/

/-- A class declares a supertype of a name. -/
def InheritsFrom (table : ClassTable) (sub sup : String) : Prop :=
  ∃ decl, table.find? sub = some decl ∧
    ∃ type, DirectSupertype decl type ∧ type.declaredName? = some sup

/-- No class of the table has a type variable as a superclass or an interface. -/
def NoVariableSupertypes (table : ClassTable) : Prop :=
  ∀ decl ∈ table.classes, ∀ type ∈ directSupertypes decl, type.isTypeVariable = false

instance (table : ClassTable) : Decidable table.NoVariableSupertypes :=
  inferInstanceAs (Decidable (∀ decl ∈ table.classes, ∀ type ∈ directSupertypes decl,
    type.isTypeVariable = false))

/-- A class that is found is one of the classes. -/
theorem mem_classes_of_find? {table : ClassTable} {name : String} {decl : ClassDecl}
    (h : table.find? name = some decl) : decl ∈ table.classes :=
  List.mem_map_of_mem (f := Prod.snd) ((table.byName.mem_entries_iff name decl).2 h)

/-- A step leads to a name that the class inherits from. -/
theorem SupertypeStep.inheritsFrom {table : ClassTable} {lower upper : JavaType} {name : String}
    (hvars : table.NoVariableSupertypes) (h : SupertypeStep table lower upper)
    (hupper : upper.declaredName? = some name) :
    ∃ below, lower.declaredName? = some below ∧ table.InheritsFrom below name := by
  cases h with
  | raw hfind _ hdirect =>
    rw [JavaType.declaredName?_erase] at hupper
    exact ⟨_, rfl, _, hfind, _, hdirect, hupper⟩
  | applied hfind _ hdirect =>
    have hvariable := hvars _ (mem_classes_of_find? hfind) _ (mem_directSupertypes_iff.2 hdirect)
    rw [JavaType.declaredName?_substitute hvariable] at hupper
    exact ⟨_, rfl, _, hfind, _, hdirect, hupper⟩

/-- From every type of a class a step leads to each name that the class inherits from. -/
theorem InheritsFrom.exists_step {table : ClassTable} {sub sup : String}
    (h : table.InheritsFrom sub sup) (args : List JavaType) :
    ∃ supArgs, SupertypeStep table (.declared sub args) (.declared sup supArgs) := by
  obtain ⟨decl, hfind, type, hdirect, hname⟩ := h
  obtain ⟨typeArgs, rfl⟩ := JavaType.exists_of_declaredName? hname
  by_cases hraw : args = [] ∧ decl.typeParameters ≠ []
  · obtain ⟨rfl, hgeneric⟩ := hraw
    exact ⟨[], .raw hfind hgeneric hdirect⟩
  · refine ⟨_, .applied hfind ?_ hdirect⟩
    rw [Classical.not_and_iff_not_or_not, Classical.not_not] at hraw
    exact hraw

/-- Between declared types, steps follow the names that classes inherit from. -/
theorem Reaches.inheritsFrom {table : ClassTable} {lower upper : JavaType} {sup : String}
    (hvars : table.NoVariableSupertypes) (h : Reaches table lower upper)
    (hupper : upper.declaredName? = some sup) :
    ∃ sub, lower.declaredName? = some sub ∧ ReflTransGen table.InheritsFrom sub sup := by
  induction h using ReflTransGen.head_induction_on with
  | refl => exact ⟨sup, hupper, .refl⟩
  | head hstep _ ih =>
    obtain ⟨middle, hmiddle, hways⟩ := ih
    obtain ⟨sub, hsub, hinherits⟩ := hstep.inheritsFrom hvars hmiddle
    exact ⟨sub, hsub, .head hinherits hways⟩

/-! ## Completeness -/

/-- One step between names whose lower end was not entered. -/
def FreshStep (table : ClassTable) (entered : List String) (sub sup : String) : Prop :=
  table.InheritsFrom sub sup ∧ sub ∉ entered

/-- A way that may pass through a name either avoids it, or goes on from its last visit there. -/
theorem freshSteps_cut {table : ClassTable} {entered : List String} {sub sup : String}
    (name : String) (h : ReflTransGen (FreshStep table entered) sub sup) :
    ReflTransGen (FreshStep table (name :: entered)) sub sup ∨
      ∃ next, table.InheritsFrom name next ∧
        ReflTransGen (FreshStep table (name :: entered)) next sup := by
  induction h using ReflTransGen.head_induction_on with
  | refl => exact .inl .refl
  | @head sub next hstep _ ih =>
    rcases ih with hways | hlast
    · by_cases hname : sub = name
      · subst hname
        exact .inr ⟨next, hstep.1, hways⟩
      · refine .inl (.head ⟨hstep.1, ?_⟩ hways)
        rw [List.mem_cons, not_or]
        exact ⟨hname, hstep.2⟩
    · exact .inr hlast

/-- A way from a name other than the target begins with a step. -/
theorem exists_first_freshStep {table : ClassTable} {entered : List String} {sub sup : String}
    (h : ReflTransGen (FreshStep table entered) sub sup) (hne : sub ≠ sup) :
    sub ∉ entered ∧ ∃ decl, table.find? sub = some decl := by
  rcases ReflTransGen.cases_head h with heq | ⟨next, ⟨⟨decl, hfind, -⟩, hfresh⟩, -⟩
  · exact absurd heq hne
  · exact ⟨hfresh, decl, hfind⟩

/-- The search finds the target if a way that avoids what was entered leads there from a pending
type. -/
theorem search_isSome {table : ClassTable} {target : String} {entered : List String}
    {pending : List JavaType}
    (h : ∃ name args, .declared name args ∈ pending ∧
      ReflTransGen (FreshStep table entered) name target) :
    (searchSupertype table target entered pending).isSome = true := by
  induction entered, pending using searchSupertype.induct table target with
  | case1 entered =>
    obtain ⟨name, args, hmem, -⟩ := h
    cases hmem
  | case2 entered args pending =>
    rw [searchSupertype_declared, if_pos rfl]
    rfl
  | case3 entered name args pending hother hseen ih =>
    rw [searchSupertype_declared, if_neg hother, if_pos hseen]
    obtain ⟨start, startArgs, hmem, hways⟩ := h
    rcases List.mem_cons.1 hmem with heq | hmem
    · obtain ⟨rfl, rfl⟩ := JavaType.declared.inj heq
      exact absurd (List.contains_iff_mem.1 hseen) (exists_first_freshStep hways hother).1
    · exact ih ⟨start, startArgs, hmem, hways⟩
  | case4 entered name args pending hother hnew hfind ih =>
    rw [searchSupertype_declared, if_neg hother, if_neg hnew, hfind]
    obtain ⟨start, startArgs, hmem, hways⟩ := h
    rcases List.mem_cons.1 hmem with heq | hmem
    · obtain ⟨rfl, rfl⟩ := JavaType.declared.inj heq
      obtain ⟨-, decl, hknown⟩ := exists_first_freshStep hways hother
      rw [hfind] at hknown
      cases hknown
    · exact ih ⟨start, startArgs, hmem, hways⟩
  | case5 entered name args pending hother hnew decl hfind ih =>
    rw [searchSupertype_declared, if_neg hother, if_neg hnew, hfind]
    obtain ⟨start, startArgs, hmem, hways⟩ := h
    apply ih
    rcases freshSteps_cut name hways with havoids | ⟨next, hinherits, hrest⟩
    · rcases List.mem_cons.1 hmem with heq | hmem
      · obtain ⟨rfl, rfl⟩ := JavaType.declared.inj heq
        exact absurd List.mem_cons_self (exists_first_freshStep havoids hother).1
      · exact ⟨start, startArgs, List.mem_append_right _ hmem, havoids⟩
    · obtain ⟨nextArgs, hstep⟩ := hinherits.exists_step args
      obtain ⟨found, hfound, hmem⟩ := supertypeStep_iff.1 hstep
      rw [hfind] at hfound
      obtain rfl := Option.some.inj hfound
      exact ⟨next, nextArgs, List.mem_append_left _ hmem, hrest⟩
  | case6 entered type pending hdeclared ih =>
    rw [searchSupertype]
    · obtain ⟨start, startArgs, hmem, hways⟩ := h
      rcases List.mem_cons.1 hmem with heq | hmem
      · exact (hdeclared _ _ heq.symm).elim
      · exact ih ⟨start, startArgs, hmem, hways⟩
    · exact hdeclared

/-! ## The whole search -/

/-- What a type is viewed as lies above it and has the name that was asked for. -/
theorem reaches_of_supertypeAs? {table : ClassTable} {type view : JavaType} {target : String}
    (h : table.supertypeAs? type target = some view) :
    (∃ args, view = .declared target args) ∧ Reaches table type view := by
  obtain ⟨hname, first, hmem, hreaches⟩ := reaches_of_search h
  rw [List.mem_singleton.1 hmem] at hreaches
  exact ⟨hname, hreaches⟩

/-- A type has a view under every name that its class inherits from. -/
theorem supertypeAs?_isSome {table : ClassTable} {name target : String}
    (h : ReflTransGen table.InheritsFrom name target) (args : List JavaType) :
    (table.supertypeAs? (.declared name args) target).isSome = true := by
  have hfresh : ReflTransGen (FreshStep table []) name target :=
    ReflTransGen.mono (fun _ _ hstep => ⟨hstep, List.not_mem_nil⟩) _ _ h
  exact search_isSome ⟨name, args, List.mem_cons_self, hfresh⟩

/-- A search from a declared type answers with a type of the target's name that steps lead to, and
it has an answer whenever steps lead to any type of that name. So a class other than the root is a
superclass exactly if it is reached over the declared supertypes of classes. -/
theorem supertypeSearch_sound_complete (table : ClassTable) (hvars : table.NoVariableSupertypes) :
    (∀ name args target,
      (∀ view, table.supertypeAs? (.declared name args) target = some view →
        (∃ viewArgs, view = .declared target viewArgs) ∧
          Reaches table (.declared name args) view) ∧
      ((∃ viewArgs, Reaches table (.declared name args) (.declared target viewArgs)) →
        ∃ view, table.supertypeAs? (.declared name args) target = some view)) ∧
    ∀ sub sup, sup ≠ objectName →
      (table.isSubclass sub sup = true ↔ ReflTransGen table.InheritsFrom sub sup) := by
  refine ⟨fun name args target => ⟨fun view hview => reaches_of_supertypeAs? hview, ?_⟩, ?_⟩
  · rintro ⟨viewArgs, hreaches⟩
    obtain ⟨sub, hsub, hways⟩ := Reaches.inheritsFrom hvars hreaches rfl
    obtain rfl := Option.some.inj hsub
    exact Option.isSome_iff_exists.1 (supertypeAs?_isSome hways args)
  · intro sub sup hsup
    have hroot : (sup == objectName) = false := by simpa using hsup
    rw [isSubclass, hroot, Bool.false_or]
    constructor
    · intro hsome
      obtain ⟨view, hview⟩ := Option.isSome_iff_exists.1 hsome
      obtain ⟨⟨viewArgs, rfl⟩, hreaches⟩ := reaches_of_supertypeAs? hview
      obtain ⟨below, hbelow, hways⟩ := Reaches.inheritsFrom hvars hreaches rfl
      obtain rfl := Option.some.inj hbelow
      exact hways
    · exact fun hways => supertypeAs?_isSome hways []

/-! ### A circle -/

/-- Two generic classes that inherit from each other, one from an unknown class as well. -/
def circle : ClassTable :=
  empty.insertAll
    [ { name := "Sub", typeParameters := [{ name := "T" }],
        superclass? := some (.declared "Base" [.typeVariable "T"]),
        interfaces := [.named "Missing"] },
      { name := "Base", typeParameters := [{ name := "E" }],
        superclass? := some (.declared "Sub" [.typeVariable "E"]),
        interfaces := [.declared "Source" [.array (.typeVariable "E")]] },
      { name := "Source", kind := .interfaceKind, typeParameters := [{ name := "S" }] } ]

/-- In a circle the search finds what lies above the other class. -/
theorem supertypeSearch_circle :
    circle.NoVariableSupertypes ∧
    (∃ view, circle.supertypeAs? (.declared "Sub" [.named "Item"]) "Source" = some view) ∧
    circle.isSubclass "Base" "Missing" = true := by
  have hvars : circle.NoVariableSupertypes := by decide +kernel
  obtain ⟨hviews, hclasses⟩ := supertypeSearch_sound_complete circle hvars
  refine ⟨hvars, (hviews "Sub" [.named "Item"] "Source").2 ?_,
    (hclasses "Base" "Missing" (by decide)).2 ?_⟩
  · have hbase : SupertypeStep circle (.declared "Sub" [.named "Item"])
        (.declared "Base" [.named "Item"]) :=
      supertypeStep_iff.2 ⟨_, rfl, by decide +kernel⟩
    have hsource : SupertypeStep circle (.declared "Base" [.named "Item"])
        (.declared "Source" [.array (.named "Item")]) :=
      supertypeStep_iff.2 ⟨_, rfl, by decide +kernel⟩
    exact ⟨_, .head hbase (.single hsource)⟩
  · have hsub : circle.InheritsFrom "Base" "Sub" := ⟨_, rfl, _, .superclass rfl, rfl⟩
    have hmissing : circle.InheritsFrom "Sub" "Missing" :=
      ⟨_, rfl, _, .interface List.mem_cons_self, rfl⟩
    exact .head hsub (.single hmissing)

end ClassTable

end BundleBuilder
