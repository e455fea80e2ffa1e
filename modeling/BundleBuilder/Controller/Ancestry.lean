import BundleBuilder.ClassTable.Supertype

/-!
# The levels of a controller

A controller is scanned from the class itself through its superclasses. Each level knows what its
type parameters stand for: the type arguments that the level below supplies, or the first bound of a
parameter where it supplies none. The scan stops in front of platform classes and base classes, at a
class that is not known, and before it would enter a class again.
-/

set_option autoImplicit false

namespace BundleBuilder

open Table

/-- A class on the way up from a controller, with the types that its type parameters stand for. -/
structure Level where
  decl : ClassDecl
  bindings : Bindings

namespace Level

/-- What a type parameter stands for if no type argument is given: its first bound, or the root. -/
def erasure (parameter : TypeParameter) : JavaType :=
  parameter.bounds.head?.getD (.named ClassTable.objectName)

/-- The types that type parameters stand for, given type arguments for the first of them. -/
def bind : List TypeParameter → List JavaType → Bindings
  | [], _ => []
  | parameter :: parameters, [] => (parameter.name, erasure parameter) :: bind parameters []
  | parameter :: parameters, arg :: args => (parameter.name, arg) :: bind parameters args

/-- The next level above a level. -/
def parent? (table : ClassTable) (platform : Platform) (level : Level) : Option Level :=
  match level.decl.superclass?.map (JavaType.substitute level.bindings) with
  | some (.declared name args) =>
    if platform.isControllerBase name || platform.ownsName name then none
    else (table.find? name).map fun decl => ⟨decl, bind decl.typeParameters args⟩
  | _ => none

theorem mem_names_of_parent? {table : ClassTable} {platform : Platform} {level parent : Level}
    (h : level.parent? table platform = some parent) : parent.decl.name ∈ table.names := by
  unfold parent? at h
  split at h
  · split at h
    · cases h
    · obtain ⟨decl, hfind, rfl⟩ := Option.map_eq_some_iff.1 h
      have hname := ClassTable.name_of_find? hfind
      show decl.name ∈ table.names
      rw [hname]
      exact ClassTable.mem_names_of_find? hfind
  · cases h

/-- The levels from a level upwards, where the classes of `seen` were entered before. -/
def climb (table : ClassTable) (platform : Platform) (seen : List String) (level : Level) :
    List Level :=
  level :: match _h : level.parent? table platform with
    | none => []
    | some parent =>
      -- A class that was entered before ends the way up, so that a circle does no harm.
      if _new : seen.contains parent.decl.name = true then []
      else climb table platform (parent.decl.name :: seen) parent
termination_by unseen table.names seen
decreasing_by
  exact unseen_cons_lt (mem_names_of_parent? _h) (by simpa using _new)

/-- The levels of a controller: the class alone, or the class and its superclasses. -/
def ofController (table : ClassTable) (platform : Platform) (decl : ClassDecl) (inherited : Bool) :
    List Level :=
  let level : Level := ⟨decl, []⟩
  if inherited then climb table platform [decl.name] level else [level]

end Level

end BundleBuilder
