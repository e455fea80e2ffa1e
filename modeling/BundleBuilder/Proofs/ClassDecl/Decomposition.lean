import BundleBuilder.Proofs.ClassDecl.Naming

/-!
# Taking class names apart

Package, enclosing names and simple name are found by cutting the name of a class in different ways: at
its last dot, behind its package, and into its segments. For every class that a catalog accepts they fit
together. Joined with dots they give back the name, and no other own names without dots do so behind the
same package. The enclosing class of a nested class has everything but the simple name, and the binary
name joins the own names with dollar signs (`name_decomposes`). The package may end at any dot of the
name, and segments may be empty.
-/

set_option autoImplicit false

namespace BundleBuilder.ClassDecl

variable {decl : ClassDecl}

/-- The package of a class as a part of its name; nothing for the default package. -/
def packageParts (decl : ClassDecl) : List String :=
  if decl.package = "" then [] else [decl.package]

/-- What stands in front of the simple name: the package and the names of the enclosing classes. -/
def qualifiers (decl : ClassDecl) : List String := decl.packageParts ++ decl.enclosingNames

/-- Parts behind the package make up the same name as the segments of both. -/
theorem dotted_packageParts (own : List String) (hown : own ≠ []) :
    Text.dotted (decl.packageParts ++ own) = Text.dotted (decl.packageSegments ++ own) := by
  rw [packageParts, packageSegments]
  split
  · rfl
  · have hsegments : Text.segments decl.package ≠ [] := Text.split_ne_nil '.' decl.package
    have hpackage : Text.join "." (Text.segments decl.package) = decl.package :=
      Text.dotted_segments decl.package
    rw [Text.dotted, Text.dotted, Text.join_append "." (List.cons_ne_nil _ _) hown,
      Text.join_append "." hsegments hown, Text.join_singleton, hpackage]

/-- Own names without dots can be read off the name that they make up behind the package. -/
theorem segments_dotted_packageParts (decl : ClassDecl) {own : List String} (hown : own ≠ [])
    (hdots : ∀ name ∈ own, '.' ∉ name.toList) :
    Text.segments (Text.dotted (decl.packageParts ++ own)) = decl.packageSegments ++ own := by
  rw [dotted_packageParts own hown]
  apply Text.split_join rfl (List.append_ne_nil_of_right_ne_nil _ hown)
  intro name hname
  rcases List.mem_append.1 hname with hpackage | hname
  · rw [packageSegments] at hpackage
    split at hpackage
    · cases hpackage
    · exact Text.not_mem_of_mem_split hpackage
  · exact hdots name hname

section Accepted

variable (h : decl.IsWellNamed)

include h

theorem dotted_ownNames : Text.dotted (decl.packageParts ++ decl.ownNames) = decl.name := by
  rw [dotted_packageParts _ decl.ownNames_ne_nil, segments_name h, Text.dotted_segments]

/-- No name of an enclosing class contains a dot, nor does the simple name. -/
theorem dot_not_mem_of_mem_ownNames {name : String} (hname : name ∈ decl.ownNames) :
    '.' ∉ name.toList := by
  have hsegment : name ∈ Text.segments decl.name := by
    rw [← segments_name h]
    exact List.mem_append_right _ hname
  exact Text.not_mem_of_mem_split hsegment

theorem dropLast_segments_name :
    (Text.segments decl.name).dropLast = decl.packageSegments ++ decl.enclosingNames := by
  rw [← segments_name h, ownNames, ← List.append_assoc, List.dropLast_concat]

/-- The enclosing class of a nested class is everything in front of the simple name. -/
theorem enclosingClass?_of_nested (hnested : decl.enclosingNames ≠ []) :
    decl.enclosingClass? = some (Text.dotted decl.qualifiers) := by
  have hflag : decl.isNested = true := by
    rw [isNested, Bool.not_eq_true', List.isEmpty_eq_false_iff]
    exact hnested
  rw [enclosingClass?, if_pos hflag, Text.qualifier?, dropLast_segments_name h, qualifiers,
    dotted_packageParts _ hnested]
  split
  · next hempty => exact absurd (List.append_eq_nil_iff.1 hempty).2 hnested
  · rfl

end Accepted

theorem enclosingClass?_of_not_nested (hnot : decl.enclosingNames = []) :
    decl.enclosingClass? = none := by
  rw [enclosingClass?, isNested, hnot]
  rfl

/-- The name of an accepted class is its package, the names of its enclosing classes and its simple
name, joined with dots; these are the only names without dots that make it up behind the package. The
class is nested exactly if it has an enclosing class, which has the name without the simple name, and
the binary name joins the own names with dollar signs behind the package. -/
theorem name_decomposes (decl : ClassDecl) (origin : String)
    (haccepted : Catalog.nameError? decl origin = none) :
    Text.dotted (decl.qualifiers ++ [decl.simpleName]) = decl.name ∧
    (∀ own : List String, own = decl.enclosingNames ++ [decl.simpleName] ↔
      own ≠ [] ∧ (∀ name ∈ own, '.' ∉ name.toList) ∧
        Text.dotted (decl.packageParts ++ own) = decl.name) ∧
    (decl.isNested = true ↔ ∃ outer, decl.enclosingClass? = some outer) ∧
    (∀ outer, decl.enclosingClass? = some outer → outer = Text.dotted decl.qualifiers) ∧
    decl.binaryName = (if decl.package = "" then "" else decl.package ++ ".")
      ++ Text.join "$" (decl.enclosingNames ++ [decl.simpleName]) := by
  have hnamed : decl.IsWellNamed := (Catalog.nameError?_eq_none_iff decl origin).1 haccepted
  have hname := dotted_ownNames hnamed
  refine ⟨?_, ?_, ?_, ?_, ?_⟩
  · rw [qualifiers, List.append_assoc]
    exact hname
  · intro own
    constructor
    · rintro rfl
      exact ⟨decl.ownNames_ne_nil, fun _ => dot_not_mem_of_mem_ownNames hnamed, hname⟩
    · rintro ⟨hown, hdots, hsame⟩
      have hsegments := segments_dotted_packageParts decl hown hdots
      rw [hsame, ← segments_name hnamed] at hsegments
      exact (List.append_cancel_left hsegments).symm
  · rw [isNested, Bool.not_eq_true', List.isEmpty_eq_false_iff]
    constructor
    · intro hnested
      exact ⟨_, enclosingClass?_of_nested hnamed hnested⟩
    · rintro ⟨outer, houter⟩ hnot
      rw [enclosingClass?_of_not_nested hnot] at houter
      cases houter
  · intro outer houter
    by_cases hnot : decl.enclosingNames = []
    · rw [enclosingClass?_of_not_nested hnot] at houter
      cases houter
    · rw [enclosingClass?_of_nested hnamed hnot] at houter
      exact (Option.some.inj houter).symm
  · rw [binaryName]
    split
    · exact String.empty_append.symm
    · rfl

/-! ### Empty segments -/

/-- A class in a class in a class without a name, in a package that has an empty segment as well. -/
def hollowDecl : ClassDecl := { name := "com..app.Outer..Inner", package? := some "com..app" }

/-- The name of the class is taken apart behind the package, with the empty segment kept. -/
theorem name_decomposes_hollow :
    Catalog.nameError? hollowDecl "models.yaml" = none ∧
      hollowDecl.qualifiers = ["com..app", "Outer", ""] ∧
      hollowDecl.enclosingClass? = some "com..app.Outer." ∧
      hollowDecl.binaryName = "com..app.Outer$$Inner" := by
  have haccepted : Catalog.nameError? hollowDecl "models.yaml" = none := by decide +kernel
  have hqualifiers : hollowDecl.qualifiers = ["com..app", "Outer", ""] := by decide +kernel
  obtain ⟨-, -, hnested, houter, hbinary⟩ := name_decomposes hollowDecl "models.yaml" haccepted
  obtain ⟨outer, hfound⟩ := hnested.1 (by decide +kernel)
  refine ⟨haccepted, hqualifiers, ?_, ?_⟩
  · rw [hfound, houter outer hfound, hqualifiers]
    decide +kernel
  · rw [hbinary]
    decide +kernel

end BundleBuilder.ClassDecl
