import BundleBuilder.Table.Sorted
import BundleBuilder.Text.Dotted

/-!
# Annotations

An annotation on a class or field: its name, qualified or simple, and its values by key. A simple
name stands for every qualified name that ends in it.
-/

set_option autoImplicit false

namespace BundleBuilder

open Table

/-- A value given to an annotation element. -/
inductive AnnotationValue where
  | bool (value : Bool)
  | int (value : Int)
  | text (value : String)
  | list (values : List AnnotationValue)
  deriving Repr, Inhabited

namespace AnnotationValue

mutual

/-- Decides whether two annotation values are equal. -/
def decEq : (a b : AnnotationValue) → Decidable (a = b)
  | .bool a, .bool b =>
    if h : a = b then isTrue (h ▸ rfl) else isFalse fun e => h (by injection e)
  | .int a, .int b =>
    if h : a = b then isTrue (h ▸ rfl) else isFalse fun e => h (by injection e)
  | .text a, .text b =>
    if h : a = b then isTrue (h ▸ rfl) else isFalse fun e => h (by injection e)
  | .list as, .list bs =>
    match decEqList as bs with
    | isTrue h => isTrue (h ▸ rfl)
    | isFalse h => isFalse fun e => h (by injection e)
  | .bool _, .int _ | .bool _, .text _ | .bool _, .list _ => isFalse (by simp)
  | .int _, .bool _ | .int _, .text _ | .int _, .list _ => isFalse (by simp)
  | .text _, .bool _ | .text _, .int _ | .text _, .list _ => isFalse (by simp)
  | .list _, .bool _ | .list _, .int _ | .list _, .text _ => isFalse (by simp)

/-- Decides whether two lists of annotation values are equal. -/
def decEqList : (as bs : List AnnotationValue) → Decidable (as = bs)
  | [], [] => isTrue rfl
  | [], _ :: _ => isFalse (by simp)
  | _ :: _, [] => isFalse (by simp)
  | a :: as, b :: bs =>
    match decEq a b with
    | isFalse h => isFalse fun e => h (by injection e)
    | isTrue h =>
      match decEqList as bs with
      | isTrue ht => isTrue (h ▸ ht ▸ rfl)
      | isFalse ht => isFalse fun e => ht (by injection e)

end

instance : DecidableEq AnnotationValue := decEq

end AnnotationValue

/-- An annotation as it is written on a class or field. -/
structure Annotation where
  name : String
  values : SortedTable AnnotationValue
  deriving DecidableEq

namespace Annotation

/-- Whether an annotation has a given qualified name, or that name's simple form. -/
def denotes (marker : Annotation) (qualified : String) : Bool :=
  marker.name == qualified ||
    (!Text.isQualified marker.name && Text.simpleName qualified == marker.name)

/-- The value at a key, if it is a truth value. -/
def bool? (marker : Annotation) (key : String) : Option Bool :=
  match marker.values.find? key with
  | some (.bool value) => some value
  | _ => none

/-- The value at a key, if it is a text. -/
def text? (marker : Annotation) (key : String) : Option String :=
  match marker.values.find? key with
  | some (.text value) => some value
  | _ => none

/-- The first annotation of a list that has a given qualified name. -/
def find? (annotations : List Annotation) (qualified : String) : Option Annotation :=
  annotations.find? (·.denotes qualified)

end Annotation

end BundleBuilder
