/-!
# Modifiers and visibility

The modifiers of a class or member and the access level they give it. Of several access modifiers
the most permissive one counts in the order public, protected, private; without any the member is
visible in its package. Package access ranks above protected access: the generated code lives in the
controller's package and never extends a class.
-/

set_option autoImplicit false

namespace BundleBuilder

/-- The modifiers that a class model may carry. -/
inductive Modifier where
  | publicAccess
  | protectedAccess
  | privateAccess
  | static
  | final
  | abstract
  | transient
  | volatile
  | synchronized
  | native
  deriving DecidableEq, Repr

namespace Modifier

/-- All modifiers. -/
def all : List Modifier :=
  [publicAccess, protectedAccess, privateAccess, static, final, abstract, transient, volatile,
    synchronized, native]

/-- The word that stands for a modifier in a class model. -/
def word : Modifier → String
  | publicAccess => "public"
  | protectedAccess => "protected"
  | privateAccess => "private"
  | static => "static"
  | final => "final"
  | abstract => "abstract"
  | transient => "transient"
  | volatile => "volatile"
  | synchronized => "synchronized"
  | native => "native"

/-- The modifier of a word. -/
def ofWord? (text : String) : Option Modifier :=
  all.find? fun modifier => modifier.word == text

end Modifier

/-- The access level of a class or member. -/
inductive Visibility where
  | privateAccess
  | protectedAccess
  | packageAccess
  | publicAccess
  deriving DecidableEq, Repr

namespace Visibility

/-- The access level that a list of modifiers gives. -/
def ofModifiers (modifiers : List Modifier) : Visibility :=
  if .publicAccess ∈ modifiers then publicAccess
  else if .protectedAccess ∈ modifiers then protectedAccess
  else if .privateAccess ∈ modifiers then privateAccess
  else packageAccess

/-- Access levels from the least to the most permissive one. -/
def rank : Visibility → Nat
  | privateAccess => 0
  | protectedAccess => 1
  | packageAccess => 2
  | publicAccess => 3

instance : LE Visibility := ⟨fun a b => a.rank ≤ b.rank⟩

instance (a b : Visibility) : Decidable (a ≤ b) := inferInstanceAs (Decidable (a.rank ≤ b.rank))

/-- The word for an access level. -/
def word : Visibility → String
  | privateAccess => "private"
  | protectedAccess => "protected"
  | packageAccess => "package"
  | publicAccess => "public"

/-- Whether a member with this access can be used from a package, given its own package. -/
def permits (visibility : Visibility) (ownPackage usingPackage : String) : Bool :=
  match visibility with
  | publicAccess => true
  | privateAccess => false
  | packageAccess | protectedAccess => ownPackage == usingPackage

end Visibility

end BundleBuilder
