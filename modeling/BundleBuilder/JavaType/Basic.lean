/-!
# Java types

A type as it is written in Java source: primitive types, `void`, declared types with their type
arguments, arrays, type variables and the three forms of wildcards. Wildcards stand only directly
as type arguments and `void` only as a whole type; both are rules of the grammar, not of this
representation.
-/

set_option autoImplicit false

namespace BundleBuilder

/-- The primitive types. -/
inductive Primitive where
  | boolean
  | byte
  | short
  | int
  | long
  | char
  | float
  | double
  deriving DecidableEq, Repr

namespace Primitive

/-- All primitive types. -/
def all : List Primitive :=
  [boolean, byte, short, int, long, char, float, double]

/-- The keyword of a primitive type. -/
def keyword : Primitive → String
  | boolean => "boolean"
  | byte => "byte"
  | short => "short"
  | int => "int"
  | long => "long"
  | char => "char"
  | float => "float"
  | double => "double"

/-- The primitive type of a keyword. -/
def ofKeyword? (word : String) : Option Primitive :=
  all.find? fun primitive => primitive.keyword == word

/-- The qualified name of the class that boxes a primitive type. -/
def boxName : Primitive → String
  | boolean => "java.lang.Boolean"
  | byte => "java.lang.Byte"
  | short => "java.lang.Short"
  | int => "java.lang.Integer"
  | long => "java.lang.Long"
  | char => "java.lang.Character"
  | float => "java.lang.Float"
  | double => "java.lang.Double"

theorem ofKeyword?_keyword (primitive : Primitive) :
    ofKeyword? primitive.keyword = some primitive := by
  cases primitive <;> decide

end Primitive

/-- A Java type reference. -/
inductive JavaType where
  | primitive (kind : Primitive)
  | void
  | declared (name : String) (args : List JavaType)
  | array (element : JavaType)
  | typeVariable (name : String)
  | wildcard
  | wildcardExtends (bound : JavaType)
  | wildcardSuper (bound : JavaType)
  deriving Repr, Inhabited

namespace JavaType

/-- A declared type without type arguments. -/
def named (name : String) : JavaType := .declared name []

mutual

/-- Decides whether two types are equal. -/
def decEq : (a b : JavaType) → Decidable (a = b)
  | .primitive p, .primitive q =>
    if h : p = q then isTrue (h ▸ rfl) else isFalse fun e => h (by injection e)
  | .void, .void => isTrue rfl
  | .declared n as, .declared m bs =>
    if hn : n = m then
      match decEqList as bs with
      | isTrue hl => isTrue (hn ▸ hl ▸ rfl)
      | isFalse hl => isFalse fun e => hl (by injection e)
    else isFalse fun e => hn (by injection e)
  | .array a, .array b =>
    match decEq a b with
    | isTrue h => isTrue (h ▸ rfl)
    | isFalse h => isFalse fun e => h (by injection e)
  | .typeVariable n, .typeVariable m =>
    if h : n = m then isTrue (h ▸ rfl) else isFalse fun e => h (by injection e)
  | .wildcard, .wildcard => isTrue rfl
  | .wildcardExtends a, .wildcardExtends b =>
    match decEq a b with
    | isTrue h => isTrue (h ▸ rfl)
    | isFalse h => isFalse fun e => h (by injection e)
  | .wildcardSuper a, .wildcardSuper b =>
    match decEq a b with
    | isTrue h => isTrue (h ▸ rfl)
    | isFalse h => isFalse fun e => h (by injection e)
  | .primitive _, .void | .primitive _, .declared .. | .primitive _, .array _
  | .primitive _, .typeVariable _ | .primitive _, .wildcard | .primitive _, .wildcardExtends _
  | .primitive _, .wildcardSuper _ => isFalse (by simp)
  | .void, .primitive _ | .void, .declared .. | .void, .array _ | .void, .typeVariable _
  | .void, .wildcard | .void, .wildcardExtends _ | .void, .wildcardSuper _ => isFalse (by simp)
  | .declared .., .primitive _ | .declared .., .void | .declared .., .array _
  | .declared .., .typeVariable _ | .declared .., .wildcard | .declared .., .wildcardExtends _
  | .declared .., .wildcardSuper _ => isFalse (by simp)
  | .array _, .primitive _ | .array _, .void | .array _, .declared ..
  | .array _, .typeVariable _ | .array _, .wildcard | .array _, .wildcardExtends _
  | .array _, .wildcardSuper _ => isFalse (by simp)
  | .typeVariable _, .primitive _ | .typeVariable _, .void | .typeVariable _, .declared ..
  | .typeVariable _, .array _ | .typeVariable _, .wildcard | .typeVariable _, .wildcardExtends _
  | .typeVariable _, .wildcardSuper _ => isFalse (by simp)
  | .wildcard, .primitive _ | .wildcard, .void | .wildcard, .declared .. | .wildcard, .array _
  | .wildcard, .typeVariable _ | .wildcard, .wildcardExtends _
  | .wildcard, .wildcardSuper _ => isFalse (by simp)
  | .wildcardExtends _, .primitive _ | .wildcardExtends _, .void | .wildcardExtends _, .declared ..
  | .wildcardExtends _, .array _ | .wildcardExtends _, .typeVariable _
  | .wildcardExtends _, .wildcard | .wildcardExtends _, .wildcardSuper _ => isFalse (by simp)
  | .wildcardSuper _, .primitive _ | .wildcardSuper _, .void | .wildcardSuper _, .declared ..
  | .wildcardSuper _, .array _ | .wildcardSuper _, .typeVariable _
  | .wildcardSuper _, .wildcard | .wildcardSuper _, .wildcardExtends _ => isFalse (by simp)

/-- Decides whether two lists of types are equal. -/
def decEqList : (as bs : List JavaType) → Decidable (as = bs)
  | [], [] => isTrue rfl
  | [], _ :: _ => isFalse (by simp)
  | _ :: _, [] => isFalse (by simp)
  | a :: as, b :: bs =>
    match decEq a b with
    | isFalse h => isFalse fun e => h (by injection e)
    | isTrue h =>
      match decEqList as bs with
      | isTrue ht => isTrue (h ▸ ht ▸ rfl)
      | isFalse ht => isFalse fun e => ht (by injection e)

end

instance : DecidableEq JavaType := decEq

/-- The name of a declared type, without its type arguments. -/
def declaredName? : JavaType → Option String
  | .declared name _ => some name
  | _ => none

/-- Whether a type is one of the primitive types. -/
def isPrimitive : JavaType → Bool
  | .primitive _ => true
  | _ => false

mutual

/-- The number of constructors in a type. -/
def size : JavaType → Nat
  | .declared _ args => sizeList args + 1
  | .array element => element.size + 1
  | .wildcardExtends bound => bound.size + 1
  | .wildcardSuper bound => bound.size + 1
  | .primitive _ | .void | .typeVariable _ | .wildcard => 1

/-- The sum of the sizes of a list of types. -/
def sizeList : List JavaType → Nat
  | [] => 0
  | head :: tail => head.size + sizeList tail

end

end JavaType

end BundleBuilder
