import BundleBuilder.Proofs.ClassTable.Answers
import BundleBuilder.Proofs.ClassTable.Reachability
import BundleBuilder.Proofs.JavaType.Formation

/-!
# Assignability to the same type

Every formed type that stands for values can be assigned to itself, and every type argument in it
admits itself (`isAssignable_self`). Neither the classes nor the bounds matter: a class is viewed as
itself before any class is looked up, and a variable is compared with itself before its bounds are.
So the rules only descend into the type, and as many rounds as the type has constructors are enough
(`assignableWithin_self`). That primitives, `void` and wildcards stand where they may is necessary:
the elements of arrays and the bounds of wildcards are asked about as types of values.
-/

set_option autoImplicit false

namespace BundleBuilder.ClassTable

variable {table : ClassTable} {bounds : TypeBounds}

/-! ## One level -/

/-- A type is an instance of its own class, with its own arguments. -/
theorem supertypeAs?_self (table : ClassTable) (name : String) (args : List JavaType) :
    table.supertypeAs? (.declared name args) name = some (.declared name args) := by
  rw [supertypeAs?, searchSupertype_declared, if_pos rfl]

/-- A type argument that is no wildcard admits itself. -/
theorem admits_self_of_element (ask : JavaType → JavaType → Option Bool) {arg : JavaType}
    (h : arg.IsFormedAt .element) : admits ask arg arg = some true := by
  cases arg with
  | wildcard => cases h
  | wildcardExtends bound | wildcardSuper bound => cases h.1
  | _ =>
    rw [admits]
    · simp
    all_goals simp

/-- A view of a type as itself has admissible arguments if each of them admits itself. -/
theorem admitsView_self {ask : JavaType → JavaType → Option Bool} {name : String}
    {args : List JavaType} (h : admitsAll ask args args = some true) :
    admitsView ask args (some (.declared name args)) = some true := by
  rw [admitsView]
  split
  · rfl
  · rw [if_pos rfl]
    exact h

/-- One round of the search on two declared types compares the arguments of the target with those of
the view. -/
theorem assignableWithin_declared (depth : Nat) (name target : String)
    (args targetArgs : List JavaType) :
    assignableWithin table bounds (depth + 1) (.declared name args) (.declared target targetArgs) =
      if isObject (.declared target targetArgs) then some true
      else admitsView (assignableWithin table bounds depth) targetArgs
        (table.supertypeAs? (.declared name args) target) :=
  rfl

/-- One round of the search on two types of one class compares their arguments. -/
theorem assignableWithin_sameClass (depth : Nat) (name : String) (args targetArgs : List JavaType) :
    assignableWithin table bounds (depth + 1) (.declared name args) (.declared name targetArgs) =
      if isObject (.declared name targetArgs) then some true
      else admitsView (assignableWithin table bounds depth) targetArgs
        (some (.declared name args)) := by
  rw [assignableWithin_declared, supertypeAs?_self]

/-- One round of the search on a declared type and itself. -/
theorem assignableWithin_declared_self {depth : Nat} {name : String} {args : List JavaType}
    (h : admitsAll (assignableWithin table bounds depth) args args = some true) :
    assignableWithin table bounds (depth + 1) (.declared name args) (.declared name args)
      = some true := by
  rw [assignableWithin_sameClass]
  split
  · rfl
  · exact admitsView_self h

/-- One round of the search on an array type and itself. -/
theorem assignableWithin_array_self {depth : Nat} {element : JavaType}
    (h : assignableWithin table bounds depth element element = some true) :
    assignableWithin table bounds (depth + 1) (.array element) (.array element) = some true := by
  cases element with
  | primitive kind =>
    have hround : assignableWithin table bounds (depth + 1) (.array (.primitive kind))
        (.array (.primitive kind)) = some (kind == kind) := rfl
    rw [hround, beq_self_eq_true]
  | _ => exact h

/-! ## All levels -/

variable (table bounds)

mutual

/-- As many rounds as a type has constructors show that it can be assigned to itself. -/
theorem assignableWithin_self : ∀ (type : JavaType), type.IsFormedAt .element →
    ∀ depth ≥ type.size, assignableWithin table bounds depth type type = some true
  | .primitive kind, _, depth + 1, _ => by
    have hround : assignableWithin table bounds (depth + 1) (.primitive kind) (.primitive kind)
        = some (kind == kind) := rfl
    rw [hround, beq_self_eq_true]
  | .typeVariable name, _, depth + 1, _ => by
    have hround : assignableWithin table bounds (depth + 1) (.typeVariable name)
          (.typeVariable name) =
        if isObject (.typeVariable name) || JavaType.typeVariable name == .typeVariable name then
          some true
        else anyAssignable (assignableWithin table bounds depth) (.typeVariable name)
          ((bounds.find? name).getD []) := rfl
    rw [hround, beq_self_eq_true, Bool.or_true, if_pos rfl]
  | .declared name args, h, depth + 1, hdepth => by
    apply assignableWithin_declared_self
    apply admitsAll_self args h depth
    rw [JavaType.size] at hdepth
    omega
  | .array element, h, depth + 1, hdepth => by
    apply assignableWithin_array_self
    apply assignableWithin_self element h depth
    rw [JavaType.size] at hdepth
    omega
  | .void, h, _, _ | .wildcard, h, _, _ => nomatch h
  | .wildcardExtends _, h, _, _ | .wildcardSuper _, h, _, _ => nomatch h.1

/-- As many rounds as a type argument has constructors show that it admits itself. -/
theorem admits_self : ∀ (arg : JavaType), arg.IsFormedAt .argument →
    ∀ depth ≥ arg.size, admits (assignableWithin table bounds depth) arg arg = some true
  | .wildcard, _, _, _ => rfl
  -- The bounds of both sides are the same type, whichever of them is the source.
  | .wildcardExtends bound, h, depth, hdepth => by
    apply assignableWithin_self bound h.2 depth
    rw [JavaType.size] at hdepth
    omega
  | .wildcardSuper bound, h, depth, hdepth => by
    apply assignableWithin_self bound h.2 depth
    rw [JavaType.size] at hdepth
    omega
  | .declared _ _, h, _, _ => admits_self_of_element _ h
  | .array _, h, _, _ => admits_self_of_element _ h
  | .typeVariable _, h, _, _ => admits_self_of_element _ h
  | .primitive _, h, _, _ => absurd rfl h
  | .void, h, _, _ => nomatch h

theorem admitsAll_self : ∀ (args : List JavaType), JavaType.AreFormed args →
    ∀ depth ≥ JavaType.sizeList args,
      admitsAll (assignableWithin table bounds depth) args args = some true
  | [], _, _, _ => rfl
  | arg :: args, h, depth, hdepth => by
    rw [JavaType.sizeList] at hdepth
    rw [admitsAll, admits_self arg h.1 depth (by omega)]
    exact admitsAll_self args h.2 depth (by omega)

end

/-! ## Types that are read -/

variable {table bounds}

/-- What is answered at some depth is answered. -/
theorem isExtendedBy_assignability? (depth : Nat) :
    IsExtendedBy (assignableWithin table bounds depth) (table.assignability? bounds) :=
  fun _ _ _ hanswer => assignability?_eq_some_iff.2 ⟨depth, hanswer⟩

/-- A type that is read from a text and normalised can be assigned to itself unless it is `void`, and
every type argument at any depth of it admits itself; in both cases the rules come to an end. This is
so whatever classes are known, in circles or not at all, and whatever bounds the variables have. -/
theorem isAssignable_self (table : ClassTable) (bounds : TypeBounds) (params : List String)
    {text : String} {read : JavaType} (hread : JavaType.parse text = .ok read) :
    (read.normalize params ≠ .void →
      table.assignability? bounds (read.normalize params) (read.normalize params) = some true) ∧
    ∀ arg, (read.normalize params).HasArgument arg →
      admits (table.assignability? bounds) arg arg = some true := by
  have hformed := JavaType.isFormed_of_parse params hread
  constructor
  · intro hvoid
    apply assignability?_eq_some_iff.2
    exact ⟨_, assignableWithin_self table bounds _ (hformed.element_of_whole hvoid) _ (Nat.le_refl _)⟩
  · intro arg harg
    apply admits_mono (isExtendedBy_assignability? arg.size)
    exact admits_self table bounds arg (JavaType.IsFormedAt.hasArgument harg hformed) _ (Nat.le_refl _)

/-! ### Circles on all sides -/

/-- Two variables that are bounded by each other. -/
def circularBounds : TypeBounds :=
  [("T", [.typeVariable "U"]), ("U", [.typeVariable "T"])]

/-- An array whose arguments mention circular classes, circular variables and a primitive bound. -/
theorem isAssignable_self_circle :
    let read : JavaType := .array (.declared "Sub"
      [.wildcardSuper (.array (.named "T")),
        .declared "Base" [.wildcardExtends (.primitive .int), .wildcard]])
    let type : JavaType := .array (.declared "Sub"
      [.wildcardSuper (.array (.typeVariable "T")),
        .declared "Base" [.wildcardExtends (.primitive .int), .wildcard]])
    JavaType.parse "Sub<? super T[], Base<? extends int, ?>>[]" = .ok read ∧
      read.normalize ["T", "U"] = type ∧ type ≠ .void ∧
      circle.assignability? circularBounds type type = some true ∧
      type.HasArgument (.wildcardExtends (.primitive .int)) ∧
      admits (circle.assignability? circularBounds) (.wildcardExtends (.primitive .int))
        (.wildcardExtends (.primitive .int)) = some true := by
  intro read type
  have hread : JavaType.parse "Sub<? super T[], Base<? extends int, ?>>[]" = .ok read :=
    JavaType.parse_eq_ok_of_text (by decide +kernel) (by decide +kernel)
  have hnormalize : read.normalize ["T", "U"] = type := by decide
  have hvoid : type ≠ .void := by simp [type]
  have harg : type.HasArgument (.wildcardExtends (.primitive .int)) := by
    refine .inside List.mem_cons_self (.inside (List.mem_cons_of_mem _ List.mem_cons_self) ?_)
    exact .here List.mem_cons_self
  obtain ⟨hself, hargs⟩ := isAssignable_self circle circularBounds ["T", "U"] hread
  rw [hnormalize] at hself hargs
  exact ⟨hread, hnormalize, hvoid, hself hvoid, harg, hargs _ harg⟩

end BundleBuilder.ClassTable
