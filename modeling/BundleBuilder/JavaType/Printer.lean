import BundleBuilder.JavaType.Basic
import BundleBuilder.Text.Dotted

/-!
# Writing types

The text of a type: declared names in full, type arguments in angle brackets with a comma and a space
between them, a pair of brackets for each array dimension. It is written from left to right behind what
is written already; `text_declared` says what has been written when the loop over the type arguments is
done.
-/

set_option autoImplicit false

namespace BundleBuilder.JavaType

/-- Texts in angle brackets; nothing when there are none. -/
def angled : List String → String
  | [] => ""
  | texts => "<" ++ Text.join ", " texts ++ ">"

mutual

/-- Writes a type behind what is written already. -/
def writeTo (out : String) : JavaType → String
  | .primitive kind => out ++ kind.keyword
  | .void => out ++ "void"
  | .declared name args =>
    if args.isEmpty then out ++ name else writeArgsTo (out ++ name ++ "<") 0 args ++ ">"
  | .array element => element.writeTo out ++ "[]"
  | .typeVariable name => out ++ name
  | .wildcard => out ++ "?"
  | .wildcardExtends bound => bound.writeTo (out ++ "? extends ")
  | .wildcardSuper bound => bound.writeTo (out ++ "? super ")

/-- Writes the type arguments from the given index on, with a separator in front of each but the first
of all. -/
def writeArgsTo (out : String) (index : Nat) : List JavaType → String
  | [] => out
  | arg :: args =>
    let separated := if index > 0 then out ++ ", " else out
    writeArgsTo (arg.writeTo separated) (index + 1) args

end

/-- The text of a type. -/
def text (type : JavaType) : String := type.writeTo ""

/-! ## The text of each form of type -/

mutual

/-- A type is written behind what is there. -/
theorem writeTo_eq_append : ∀ (out : String) (type : JavaType), type.writeTo out = out ++ type.text
  | out, .declared name args => by
    rw [text, writeTo, writeTo]
    split
    · rw [String.empty_append]
    · next hargs =>
      rw [writeArgsTo_eq_append _ _ args, writeArgsTo_eq_append ("" ++ name ++ "<") _ args]
      simp only [String.append_assoc, String.empty_append]
  | out, .array element => by
    rw [text, writeTo, writeTo, writeTo_eq_append out element, String.append_assoc]
    rfl
  | out, .wildcardExtends bound => by
    rw [text, writeTo, writeTo, writeTo_eq_append _ bound, writeTo_eq_append ("" ++ _) bound,
      String.empty_append, String.append_assoc]
  | out, .wildcardSuper bound => by
    rw [text, writeTo, writeTo, writeTo_eq_append _ bound, writeTo_eq_append ("" ++ _) bound,
      String.empty_append, String.append_assoc]
  | out, .primitive _ | out, .void | out, .typeVariable _ | out, .wildcard => by
    rw [text, writeTo, writeTo, String.empty_append]

/-- The arguments are written behind what is there. -/
theorem writeArgsTo_eq_append : ∀ (out : String) (index : Nat) (args : List JavaType),
    writeArgsTo out index args = out ++ writeArgsTo "" index args
  | out, index, [] => by
    rw [writeArgsTo, writeArgsTo, String.append_empty]
  | out, index, arg :: args => by
    rw [writeArgsTo, writeArgsTo, writeArgsTo_eq_append _ _ args,
      writeArgsTo_eq_append (arg.writeTo (if index > 0 then "" ++ ", " else "")) _ args,
      writeTo_eq_append _ arg, writeTo_eq_append (if index > 0 then "" ++ ", " else "") arg]
    split <;> simp only [String.append_assoc, String.empty_append]

end

/-- The loop over the arguments writes them joined, behind a separator unless it starts with the
first. -/
theorem writeArgsTo_eq_join (out : String) (index : Nat) {args : List JavaType} (h : args ≠ []) :
    writeArgsTo out index args
      = (if index > 0 then out ++ ", " else out) ++ Text.join ", " (args.map text) := by
  induction args generalizing out index with
  | nil => exact absurd rfl h
  | cons arg args ih =>
    rw [writeArgsTo, writeTo_eq_append, List.map_cons]
    by_cases hargs : args = []
    · rw [hargs, writeArgsTo, List.map_nil, Text.join_singleton]
    · rw [ih _ _ hargs, if_pos (Nat.succ_pos index), Text.join_cons _ _ (by simpa using hargs)]
      simp only [String.append_assoc]

theorem text_declared (name : String) (args : List JavaType) :
    (JavaType.declared name args).text = name ++ angled (args.map text) := by
  rw [text, writeTo, String.empty_append]
  cases args with
  | nil => exact (String.append_empty).symm
  | cons arg args =>
    rw [List.isEmpty_cons, if_neg Bool.false_ne_true,
      writeArgsTo_eq_join _ _ (List.cons_ne_nil arg args), if_neg (Nat.lt_irrefl 0), List.map_cons,
      angled]
    · simp only [String.append_assoc]
    · exact List.cons_ne_nil _ _

theorem text_array (element : JavaType) : (JavaType.array element).text = element.text ++ "[]" := rfl

theorem text_wildcardExtends (bound : JavaType) :
    (JavaType.wildcardExtends bound).text = "? extends " ++ bound.text := by
  rw [text, writeTo, writeTo_eq_append, String.empty_append]

theorem text_wildcardSuper (bound : JavaType) :
    (JavaType.wildcardSuper bound).text = "? super " ++ bound.text := by
  rw [text, writeTo, writeTo_eq_append, String.empty_append]

theorem text_typeVariable (name : String) : (JavaType.typeVariable name).text = name := by
  rw [text, writeTo, String.empty_append]

end BundleBuilder.JavaType
