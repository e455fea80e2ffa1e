import BundleBuilder.Proofs.JavaType.Positions

/-!
# Types of the type language

The grammar has rules on where `void`, wildcards and primitives may stand. A type that obeys them is
formed (`IsFormedAt`), whatever its classes are called and whatever type variables it has. What is
read from a text is formed, and stays so when its names are resolved (`isFormed_of_parse`). In a
formed type everything that stands as a type argument, at whatever depth, may stand there
(`IsFormedAt.hasArgument`).
-/

set_option autoImplicit false

namespace BundleBuilder.JavaType

/-! ## Formed types -/

mutual

/-- The type may stand at the place, and everything in it stands where it may. -/
def IsFormedAt (place : Place) : JavaType → Prop
  | .primitive _ => place ≠ .argument
  | .void => place = .whole
  | .declared _ args => AreFormed args
  | .array element => element.IsFormedAt .element
  | .typeVariable _ => True
  | .wildcard => place = .argument
  | .wildcardExtends bound => place = .argument ∧ bound.IsFormedAt .element
  | .wildcardSuper bound => place = .argument ∧ bound.IsFormedAt .element

/-- All types of a list may be type arguments. -/
def AreFormed : List JavaType → Prop
  | [] => True
  | type :: types => type.IsFormedAt .argument ∧ AreFormed types

end

theorem areFormed_iff {types : List JavaType} :
    AreFormed types ↔ ∀ type ∈ types, type.IsFormedAt .argument := by
  induction types with
  | nil => simp [AreFormed]
  | cons type types ih => rw [AreFormed, List.forall_mem_cons, ih]

/-- What stands alone and is not `void` may be an element as well. -/
theorem IsFormedAt.element_of_whole {type : JavaType} (h : type.IsFormedAt .whole)
    (hvoid : type ≠ .void) : type.IsFormedAt .element := by
  cases type with
  | void => exact absurd rfl hvoid
  | primitive kind => exact Place.noConfusion
  | wildcard => cases h
  | wildcardExtends bound => cases h.1
  | wildcardSuper bound => cases h.1
  | declared name args => exact h
  | array element => exact h
  | typeVariable name => trivial

/-! ## What is read is formed -/

section Normalize

variable (params : List String)

mutual

/-- Binding type parameters and importing names changes nothing about where types stand. -/
theorem IsPrintableAt.isFormedAt_normalize : ∀ (type : JavaType) {place : Place},
    type.IsPrintableAt place → (type.normalize params).IsFormedAt place
  | .declared name args, _, h => by
    rw [normalize]
    split
    · trivial
    · exact ArePrintable.areFormed_normalize args h.2
  | .array element, _, h => IsPrintableAt.isFormedAt_normalize element h
  | .wildcardExtends bound, _, h => ⟨h.1, IsPrintableAt.isFormedAt_normalize bound h.2⟩
  | .wildcardSuper bound, _, h => ⟨h.1, IsPrintableAt.isFormedAt_normalize bound h.2⟩
  | .primitive _, _, h | .void, _, h | .wildcard, _, h => h
  | .typeVariable _, _, h => h.elim

theorem ArePrintable.areFormed_normalize : ∀ types : List JavaType,
    ArePrintable types → AreFormed (normalizeAll params types)
  | [], _ => trivial
  | type :: types, h =>
    ⟨IsPrintableAt.isFormedAt_normalize type h.1, ArePrintable.areFormed_normalize types h.2⟩

end

/-- What is read from a text and normalised is formed. -/
theorem isFormed_of_parse {text : String} {read : JavaType} (h : parse text = .ok read) :
    (read.normalize params).IsFormedAt .whole :=
  IsPrintableAt.isFormedAt_normalize params read (isPrintable_of_parse h)

end Normalize

/-! ## Type arguments at any depth -/

/-- A type argument somewhere in a type. -/
inductive HasArgument : JavaType → JavaType → Prop where
  | here {name : String} {args : List JavaType} {arg : JavaType} :
      arg ∈ args → HasArgument (.declared name args) arg
  | inside {type child arg : JavaType} :
      child ∈ type.children → HasArgument child arg → HasArgument type arg

/-- What stands directly inside a formed type stands where it may. -/
theorem IsFormedAt.child {type child : JavaType} {place : Place} (h : type.IsFormedAt place)
    (hchild : child ∈ type.children) : ∃ inner, child.IsFormedAt inner := by
  cases type with
  | declared name args => exact ⟨.argument, areFormed_iff.1 h child hchild⟩
  | array element =>
    rw [List.mem_singleton.1 hchild]
    exact ⟨.element, h⟩
  | wildcardExtends bound | wildcardSuper bound =>
    rw [List.mem_singleton.1 hchild]
    exact ⟨.element, h.2⟩
  | primitive _ | void | typeVariable _ | wildcard => cases hchild

/-- Every type argument in a formed type may be one. -/
theorem IsFormedAt.hasArgument {type arg : JavaType} (harg : type.HasArgument arg) :
    ∀ {place : Place}, type.IsFormedAt place → arg.IsFormedAt .argument := by
  induction harg with
  | here hmem =>
    intro place h
    exact areFormed_iff.1 h _ hmem
  | inside hchild _ ih =>
    intro place h
    obtain ⟨inner, hinner⟩ := h.child hchild
    exact ih hinner

end BundleBuilder.JavaType
