import BundleBuilder.ClassDecl.Basic

/-!
# Names of classes

A qualified name is a package, the names of the enclosing classes and a simple name, joined with
dots. Where the package ends cannot be read off the name, so a declaration may state its package; by
default it is everything before the last dot. All parts are views of the list of segments.
-/

set_option autoImplicit false

namespace BundleBuilder.ClassDecl

/-- The package of a class; empty for the default package. -/
def package (decl : ClassDecl) : String :=
  decl.package?.getD ((Text.qualifier? decl.name).getD "")

/-- The last segment of the name. -/
def simpleName (decl : ClassDecl) : String := Text.simpleName decl.name

/-- The simple names of the enclosing classes, outermost first: the segments between the package and
the simple name. A name that does not lie in its package counts as a simple name. -/
def enclosingNames (decl : ClassDecl) : List String :=
  if decl.package = "" then (Text.segments decl.name).dropLast
  else match Text.dropSegments? (Text.segments decl.package) (Text.segments decl.name) with
    | some relative => relative.dropLast
    | none => []

/-- Whether a class is declared inside another one. -/
def isNested (decl : ClassDecl) : Bool := !decl.enclosingNames.isEmpty

/-- The qualified name of the directly enclosing class of a nested class. -/
def enclosingClass? (decl : ClassDecl) : Option String :=
  if decl.isNested then Text.qualifier? decl.name else none

/-- The name under which a running program knows the class: dollar signs stand between the names of
the enclosing classes and the simple name. -/
def binaryName (decl : ClassDecl) : String :=
  let own := Text.join "$" (decl.enclosingNames ++ [decl.simpleName])
  if decl.package = "" then own else decl.package ++ "." ++ own

end BundleBuilder.ClassDecl
