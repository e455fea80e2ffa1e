import BundleBuilder.ClassTable.Builtin
import BundleBuilder.JavaType.Substitution
import BundleBuilder.Table.Unseen

/-!
# Supertypes

A declared type is viewed as an instance of one of its supertypes by a depth-first search from class
to superclass and interfaces. Type arguments are carried along: a step substitutes the arguments for
the type parameters of the class, or erases the supertype when the class is generic and the type
gives no arguments. A class is entered once, whatever its arguments, so that cycles do no harm; the
search ends because the classes not yet entered become fewer.
-/

set_option autoImplicit false

namespace BundleBuilder.ClassTable

open Table

/-- The supertypes that a class declares: its superclass, which is the root unless another one is
named, and its interfaces. Interfaces and the root itself have no superclass. -/
def directSupertypes (decl : ClassDecl) : List JavaType :=
  let superclass := match decl.superclass? with
    | some type => [type]
    | none =>
      if decl.kind = .classKind ∧ decl.name ≠ objectName then [JavaType.named objectName] else []
  superclass ++ decl.interfaces

/-- The bindings that type arguments give to the type parameters of a class. -/
def argumentBindings (decl : ClassDecl) (args : List JavaType) : Bindings :=
  decl.typeParameterNames.zip args

/-- The direct supertypes of a class used with the given type arguments. -/
def supertypeStep (decl : ClassDecl) (args : List JavaType) : List JavaType :=
  if args.isEmpty ∧ ¬ decl.typeParameters.isEmpty then (directSupertypes decl).map JavaType.erase
  else (directSupertypes decl).map (JavaType.substitute (argumentBindings decl args))

/-- Searches the pending types, and what lies above them, for a type named `target`. The classes
named in `entered` are not entered again. -/
def searchSupertype (table : ClassTable) (target : String) (entered : List String) :
    List JavaType → Option JavaType
  | [] => none
  | .declared name args :: pending =>
    if name = target then some (.declared name args)
    else if _hseen : entered.contains name = true then searchSupertype table target entered pending
    else match _hfind : table.find? name with
      | none => searchSupertype table target entered pending
      | some decl =>
        -- What lies above the class goes in front, so that the search is depth first.
        searchSupertype table target (name :: entered) (supertypeStep decl args ++ pending)
  | _ :: pending => searchSupertype table target entered pending
termination_by pending => (unseen table.names entered, pending.length)
decreasing_by
  · exact Prod.Lex.right _ (Nat.lt_succ_self _)
  · exact Prod.Lex.right _ (Nat.lt_succ_self _)
  · exact Prod.Lex.left _ _
      (unseen_cons_lt (mem_names_of_find? _hfind) (by simpa using _hseen))
  · exact Prod.Lex.right _ (Nat.lt_succ_self _)

/-- The type viewed as an instance of the class named `target`, if it is one. -/
def supertypeAs? (table : ClassTable) (type : JavaType) (target : String) : Option JavaType :=
  searchSupertype table target [] [type]

/-- Whether a class is, or inherits from, another one. Everything inherits from the root. -/
def isSubclass (table : ClassTable) (sub sup : String) : Bool :=
  sup == objectName || (table.supertypeAs? (.named sub) sup).isSome

end BundleBuilder.ClassTable
