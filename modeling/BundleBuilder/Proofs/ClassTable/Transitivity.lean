import BundleBuilder.Proofs.ClassTable.AssignmentRules
import BundleBuilder.Proofs.ClassTable.Coherence

/-!
# Assignability is transitive on plain types

The rules of assignability compose. The view that a declared type gives of a class is a view of what
lies above that class, so the rule for declared types composes with itself; from the root and the
interfaces of arrays no step leads on; all other rules hand the question on. Nothing is asked of the
type parameters of a class, and a box may be missing from the table or generic.
-/

set_option autoImplicit false

namespace BundleBuilder

open Relation

namespace ClassTable

variable {table : ClassTable} {bounds : TypeBounds}

/-! ## The rules compose -/

/-- The root and the interfaces of arrays are assigned to themselves and to the root only. -/
theorem Assigns.of_top (h : table.IsHierarchy) {name : String}
    (htop : name ∈ objectName :: arrayMarkers) {target : JavaType} (hplain : table.IsPlain target)
    (hassigns : Assigns table bounds (.named name) target) :
    target = .named name ∨ target = .named objectName := by
  cases hassigns with
  | object => exact .inr rfl
  | view hbelow => exact .inl (hbelow.eq_top h htop hplain)

/-- What can be assigned to a type can be assigned to whatever that type can be assigned to. -/
theorem Assigns.trans (h : table.IsHierarchy) {source middle target : JavaType}
    (hplain : table.IsPlain target) (hfirst : Assigns table bounds source middle)
    (hsecond : Assigns table bounds middle target) : Assigns table bounds source target := by
  -- The induction follows the first derivation: a box or a bound stands between the source and
  -- what the rest of the derivation is about.
  induction hfirst generalizing target with
  | primitive | sameVariable | primitives => exact hsecond
  | boxed hmiddle _ ih => exact .boxed (hsecond.isPrimitive_target hmiddle) (ih hplain hsecond)
  | bound huppers hmem hmiddle _ ih =>
    exact .bound huppers hmem (hsecond.isPrimitive_target hmiddle) (ih hplain hsecond)
  | object hsource =>
    rcases hsecond.of_top h List.mem_cons_self hplain with rfl | rfl
    · exact .object hsource
    · exact .object hsource
  | marker element hmarker =>
    rcases hsecond.of_top h (List.mem_cons_of_mem _ hmarker) hplain with rfl | rfl
    · exact .marker element hmarker
    · exact .object rfl
  | elements hsource hmiddle _ ih =>
    cases hsecond with
    | object => exact .object rfl
    | primitives => cases hmiddle
    | elements _ htarget helements => exact .elements hsource htarget (ih hplain helements)
    | marker _ hmarker => exact .marker _ hmarker
  | view hbelow =>
    cases hsecond with
    | object => exact .object rfl
    | view habove => exact .view (hbelow.trans h.supertypes habove)

/-- Between plain types assignability is transitive, and the rules always lead to an answer: to
whatever greater depth they are followed, it is the same. -/
theorem isAssignable_trans_of_isPlain (table : ClassTable) (bounds : TypeBounds)
    (h : table.IsHierarchy) (hbounds : IsGrounded table bounds) :
    (∀ source target, table.IsPlain source → table.IsPlain target →
      ∀ depth ≥ assignabilityDepth bounds source target,
        assignableWithin table bounds depth source target =
          some (table.isAssignable bounds source target)) ∧
    ∀ source middle target, table.IsPlain source → table.IsPlain middle → table.IsPlain target →
      table.isAssignable bounds source middle = true →
        table.isAssignable bounds middle target = true →
          table.isAssignable bounds source target = true := by
  constructor
  · intro source target hsource htarget depth hdepth
    exact assignableWithin_eq h hbounds (.plain hsource) htarget hdepth
  · intro source middle target hsource hmiddle htarget hfirst hsecond
    rw [isAssignable_iff h hbounds (.plain hsource) hmiddle] at hfirst
    rw [isAssignable_iff h hbounds (.plain hmiddle) htarget] at hsecond
    rw [isAssignable_iff h hbounds (.plain hsource) htarget]
    exact hfirst.trans h htarget hsecond

/-! ### Lists of boxed numbers -/

/-- Lists, and the classes that box primitives. -/
def listClasses : ClassTable :=
  empty.insertAll
    ([ { name := objectName },
       { name := "java.io.Serializable", kind := .interfaceKind },
       { name := "java.lang.Cloneable", kind := .interfaceKind },
       { name := "java.lang.Comparable", kind := .interfaceKind,
         typeParameters := [{ name := "T" }] },
       { name := "java.util.Collection", kind := .interfaceKind,
         typeParameters := [{ name := "E" }] },
       { name := "java.util.List", kind := .interfaceKind, typeParameters := [{ name := "E" }],
         interfaces := [.declared "java.util.Collection" [.typeVariable "E"]] },
       { name := "java.util.ArrayList", typeParameters := [{ name := "E" }],
         interfaces := [.declared "java.util.List" [.typeVariable "E"],
           .named "java.lang.Cloneable", .named "java.io.Serializable"] } ] ++
      Primitive.all.map fun kind =>
        { name := kind.boxName,
          interfaces := [.named "java.io.Serializable",
            .declared "java.lang.Comparable" [.named kind.boxName]] })

/-- A generic class with boxed integers as its argument. -/
def ofIntegers (name : String) : JavaType := .declared name [.named "java.lang.Integer"]

/-- A variable bounded by a list of integers, and one bounded by that variable. -/
def listBounds : TypeBounds :=
  [("L", [ofIntegers "java.util.ArrayList"]),
    ("M", [.typeVariable "L", .named "java.io.Serializable"])]

theorem isGrounded_listBounds : IsGrounded listClasses listBounds := by
  constructor
  · intro name uppers huppers
    have hall : ∀ entry ∈ listBounds, ∀ upper ∈ entry.2, listClasses.IsPlain upper := by
      decide +kernel
    exact arePlain_iff.2 (hall _ (Bindings.mem_of_lookupLast huppers))
  · have honly : ∀ entry ∈ listBounds, ∀ upper ∈ entry.2, upper.isTypeVariable = true →
        entry.1 = "M" ∧ upper = .typeVariable "L" := by decide
    have hstep : ∀ name other, BoundedBy listBounds name other → name = "M" ∧ other = "L" := by
      rintro name other ⟨uppers, huppers, hmem⟩
      obtain ⟨hname, hother⟩ := honly _ (Bindings.mem_of_lookupLast huppers) _ hmem rfl
      exact ⟨hname, JavaType.typeVariable.inj hother⟩
    intro name hcycle
    obtain ⟨_, hfirst, -⟩ := TransGen.head'_iff.1 hcycle
    obtain ⟨_, -, hlast⟩ := TransGen.tail'_iff.1 hcycle
    have hlower := (hstep _ _ hfirst).1
    rw [(hstep _ _ hlast).2] at hlower
    exact absurd hlower (by decide)

/-- An array of a bounded variable can be assigned to an array of collections, because it can be
assigned to an array of lists. -/
theorem isAssignable_trans_lists :
    listClasses.IsHierarchy ∧ IsGrounded listClasses listBounds ∧
      listClasses.isAssignable listBounds (.array (.typeVariable "M"))
        (.array (ofIntegers "java.util.Collection")) = true := by
  have hhierarchy : listClasses.IsHierarchy := IsCoherent.isHierarchy (by decide +kernel)
  have hvariable : listClasses.IsPlain (.array (.typeVariable "M")) := trivial
  have hlist : listClasses.IsPlain (.array (ofIntegers "java.util.List")) := by decide +kernel
  have hcollection : listClasses.IsPlain (.array (ofIntegers "java.util.Collection")) := by
    decide +kernel
  refine ⟨hhierarchy, isGrounded_listBounds, ?_⟩
  refine (isAssignable_trans_of_isPlain listClasses listBounds hhierarchy isGrounded_listBounds).2
    _ _ _ hvariable hlist hcollection ?_ ?_
  · rw [isAssignable_iff hhierarchy isGrounded_listBounds (.plain hvariable) hlist]
    have hstep : SupertypeStep listClasses (ofIntegers "java.util.ArrayList")
        (ofIntegers "java.util.List") :=
      supertypeStep_iff.2 ⟨_, rfl, by decide +kernel⟩
    have hupper : Assigns listClasses listBounds (.typeVariable "L")
        (ofIntegers "java.util.List") :=
      .bound rfl List.mem_cons_self rfl (.view ⟨_, .single hstep, .inl rfl⟩)
    exact .elements rfl rfl (.bound rfl List.mem_cons_self rfl hupper)
  · rw [isAssignable_iff hhierarchy isGrounded_listBounds (.plain hlist) hcollection]
    have hstep : SupertypeStep listClasses (ofIntegers "java.util.List")
        (ofIntegers "java.util.Collection") :=
      supertypeStep_iff.2 ⟨_, rfl, by decide +kernel⟩
    exact .elements rfl rfl (.view ⟨_, .single hstep, .inl rfl⟩)

end ClassTable

end BundleBuilder
