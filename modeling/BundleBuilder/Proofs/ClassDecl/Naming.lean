import BundleBuilder.Proofs.Catalog.Additions
import BundleBuilder.Proofs.Text.Joining

/-!
# The parts of class names

The segments of a class name are those of the package followed by the class's own names, the names of
the enclosing classes and the simple name (`segments_name`). The binary name and the name of the builder
put other separators between the own names. Where no segment contains a dollar sign, all of them can be
read off such a name, so classes of distinct names have distinct binary names and distinct builders
(`name_eq_of_binaryName`,
`name_eq_of_qualifiedBuilder`).
-/

set_option autoImplicit false

namespace BundleBuilder

/-- A name whose segments are not empty and contain neither dollar signs nor slashes. A name of
identifiers is one if it contains no dollar sign. -/
def IsPlainName (name : String) : Prop :=
  ∀ segment ∈ Text.segments name, segment ≠ "" ∧ '$' ∉ segment.toList ∧ '/' ∉ segment.toList

/-- It is enough to look at the characters of a name. -/
theorem isPlainName_iff_chars (name : String) :
    (∀ chars ∈ Text.splitChars '.' name.toList, chars ≠ [] ∧ '$' ∉ chars ∧ '/' ∉ chars) ↔
      IsPlainName name := by
  rw [IsPlainName, Text.segments, Text.split, List.forall_mem_map]
  refine forall₂_congr fun chars _ => ?_
  rw [String.toList_ofList, Ne, Ne, ← String.toList_inj, String.toList_ofList]
  rfl

instance (name : String) : Decidable (IsPlainName name) :=
  decidable_of_iff _ (isPlainName_iff_chars name)

theorem Text.segments_append (front rest : String) :
    segments (front ++ "." ++ rest) = segments front ++ segments rest :=
  split_append rfl front rest

theorem Text.dropSegments?_append (first rest : List String) :
    dropSegments? first (first ++ rest) = some rest := by
  induction first with
  | nil => rfl
  | cons segment first ih =>
    rw [List.cons_append, dropSegments?, if_pos rfl]
    exact ih

/-- The last segment of a name is its simple name. -/
theorem Text.dropLast_append_simpleName (name : String) :
    (segments name).dropLast ++ [simpleName name] = segments name :=
  List.dropLast_concat_getLast (split_ne_nil '.' name)

theorem Text.simpleName_append (front rest : String) :
    simpleName (front ++ "." ++ rest) = simpleName rest := by
  have hsegments := segments_append front rest
  rw [← dropLast_append_simpleName (front ++ "." ++ rest), ← dropLast_append_simpleName rest,
    ← List.append_assoc] at hsegments
  exact List.singleton_inj.1 (List.append_inj' hsegments rfl).2

namespace ClassDecl

variable {decl other : ClassDecl}

/-! ## Package and own names -/

/-- The segments of the package of a class; none for the default package. -/
def packageSegments (decl : ClassDecl) : List String :=
  if decl.package = "" then [] else Text.segments decl.package

/-- The names of the enclosing classes and of the class itself. -/
def ownNames (decl : ClassDecl) : List String := decl.enclosingNames ++ [decl.simpleName]

/-- The qualified name of something in the package of a class. -/
def inPackage (decl : ClassDecl) (own : String) : String :=
  if decl.package = "" then own else decl.package ++ "." ++ own

/-- A class lies in the default package, or its name begins with its package. -/
theorem IsWellNamed.package_cases (h : decl.IsWellNamed) :
    decl.package = "" ∨ ∃ rest, decl.name = decl.package ++ "." ++ rest := by
  cases hpackage : decl.package? with
  | some package =>
    have heq : decl.package = package := by
      rw [ClassDecl.package, hpackage]
      rfl
    rw [heq]
    exact h.2 package hpackage
  | none =>
    rw [ClassDecl.package, hpackage, Option.getD_none, Text.qualifier?]
    split
    · exact .inl rfl
    · next outer houter =>
      have houterNe : (Text.segments decl.name).dropLast ≠ [] := fun hnil => houter hnil
      refine .inr ⟨Text.simpleName decl.name, ?_⟩
      have hjoin := Text.join_append "." houterNe (List.cons_ne_nil (Text.simpleName decl.name) [])
      rw [Text.dropLast_append_simpleName, Text.join_singleton] at hjoin
      exact (Text.dotted_segments decl.name).symm.trans hjoin

/-- The segments of a name are those of the package and the own names. -/
theorem segments_name (h : decl.IsWellNamed) :
    decl.packageSegments ++ decl.ownNames = Text.segments decl.name := by
  rw [packageSegments, ownNames, enclosingNames, simpleName]
  -- In the default package all names in front of the simple name are enclosing classes.
  by_cases hdefault : decl.package = ""
  · rw [if_pos hdefault, if_pos hdefault, List.nil_append]
    exact Text.dropLast_append_simpleName decl.name
  · rw [if_neg hdefault, if_neg hdefault]
    obtain ⟨rest, hname⟩ := h.package_cases.resolve_left hdefault
    have hsegments := Text.segments_append decl.package rest
    rw [← hname] at hsegments
    rw [hsegments, Text.dropSegments?_append, hname, Text.simpleName_append]
    exact congrArg (Text.segments decl.package ++ ·) (Text.dropLast_append_simpleName rest)

theorem ownNames_ne_nil (decl : ClassDecl) : decl.ownNames ≠ [] :=
  List.append_ne_nil_of_right_ne_nil _ (List.cons_ne_nil _ _)

theorem name_eq_of_parts (h : decl.IsWellNamed) (hother : other.IsWellNamed)
    (hpackage : decl.packageSegments = other.packageSegments) (hown : decl.ownNames = other.ownNames) :
    decl.name = other.name := by
  have hsegments : Text.segments decl.name = Text.segments other.name := by
    rw [← segments_name h, ← segments_name hother, hpackage, hown]
  rw [← Text.dotted_segments decl.name, hsegments, Text.dotted_segments]

/-- What is in a package has the segments of the package and one more. -/
theorem segments_inPackage {own : String} (hdot : '.' ∉ own.toList) :
    Text.segments (decl.inPackage own) = decl.packageSegments ++ [own] := by
  rw [inPackage, packageSegments]
  split
  · exact Text.segments_of_not_mem hdot
  · rw [Text.segments_append, Text.segments_of_not_mem hdot]

theorem simpleName_inPackage {own : String} (hdot : '.' ∉ own.toList) :
    Text.simpleName (decl.inPackage own) = own := by
  have hsegments := Text.dropLast_append_simpleName (decl.inPackage own)
  rw [segments_inPackage hdot] at hsegments
  exact List.singleton_inj.1 (List.append_inj' hsegments rfl).2

theorem parts_eq_of_inPackage {own otherOwn : String} (hdot : '.' ∉ own.toList)
    (hotherDot : '.' ∉ otherOwn.toList) (h : decl.inPackage own = other.inPackage otherOwn) :
    decl.packageSegments = other.packageSegments ∧ own = otherOwn := by
  have hsegments := congrArg Text.segments h
  rw [segments_inPackage hdot, segments_inPackage hotherDot] at hsegments
  obtain ⟨hpackage, hown⟩ := List.append_inj' hsegments rfl
  exact ⟨hpackage, List.singleton_inj.1 hown⟩

/-! ## Names with other separators -/

/-- The simple name of the builder of a class. -/
def builderName (decl : ClassDecl) : String := Text.join "$$" decl.ownNames ++ "Builder"

/-- A class that lies in its package and has a plain name. -/
structure IsPlain (decl : ClassDecl) : Prop where
  wellNamed : decl.IsWellNamed
  plainName : IsPlainName decl.name

section Plain

variable (h : decl.IsPlain) (hother : other.IsPlain)

include h

theorem mem_segments_of_ownNames {name : String} (hname : name ∈ decl.ownNames) :
    name ∈ Text.segments decl.name := by
  rw [← segments_name h.wellNamed]
  exact List.mem_append_right _ hname

theorem mem_segments_of_packageSegments {name : String} (hname : name ∈ decl.packageSegments) :
    name ∈ Text.segments decl.name := by
  rw [← segments_name h.wellNamed]
  exact List.mem_append_left _ hname

/-- With another separator between them, the own names are no dotted name. -/
theorem dot_not_mem_own {separator : String} (hseparator : '.' ∉ separator.toList) :
    '.' ∉ (Text.join separator decl.ownNames).toList :=
  Text.not_mem_join hseparator fun _ hname =>
    Text.not_mem_of_mem_split (mem_segments_of_ownNames h hname)

theorem dot_not_mem_builderName : '.' ∉ decl.builderName.toList := by
  rw [builderName, String.toList_append, List.mem_append, not_or]
  exact ⟨dot_not_mem_own h (by decide), by decide⟩

theorem slash_not_mem_builderName : '/' ∉ decl.builderName.toList := by
  rw [builderName, String.toList_append, List.mem_append, not_or]
  refine ⟨Text.not_mem_join (by decide) fun name hname => ?_, by decide⟩
  exact (h.plainName name (mem_segments_of_ownNames h hname)).2.2

theorem dollar_not_mem_ownNames : ∀ name ∈ decl.ownNames, '$' ∉ name.toList :=
  fun name hname => (h.plainName name (mem_segments_of_ownNames h hname)).2.1

include hother

/-- The own names can be read off a text that joins them with dollar signs. -/
theorem ownNames_eq_of_join {separator : String} {tail : List Char}
    (hseparator : separator.toList = '$' :: tail)
    (hjoin : Text.join separator decl.ownNames = Text.join separator other.ownNames) :
    decl.ownNames = other.ownNames :=
  Text.join_inj hseparator decl.ownNames_ne_nil other.ownNames_ne_nil (dollar_not_mem_ownNames h)
    (dollar_not_mem_ownNames hother) hjoin

/-- Classes of one package of which the builders have one simple name have one name. -/
theorem name_eq_of_builderName (hpackage : decl.packageSegments = other.packageSegments)
    (hbuilder : decl.builderName = other.builderName) : decl.name = other.name := by
  have hchars := congrArg String.toList hbuilder
  rw [builderName, builderName, String.toList_append, String.toList_append] at hchars
  have hjoin := String.toList_inj.1 (List.append_cancel_right hchars)
  exact name_eq_of_parts h.wellNamed hother.wellNamed hpackage (ownNames_eq_of_join h hother rfl hjoin)

/-- Classes of one binary name have one name. -/
theorem name_eq_of_binaryName (hbinary : decl.binaryName = other.binaryName) :
    decl.name = other.name := by
  have hdot : '.' ∉ "$".toList := by decide
  obtain ⟨hpackage, hjoin⟩ :=
    parts_eq_of_inPackage (dot_not_mem_own h hdot) (dot_not_mem_own hother hdot) hbinary
  exact name_eq_of_parts h.wellNamed hother.wellNamed hpackage (ownNames_eq_of_join h hother rfl hjoin)

/-- Classes of which the builders have one qualified name have one name. -/
theorem name_eq_of_qualifiedBuilder
    (hbuilder : decl.inPackage decl.builderName = other.inPackage other.builderName) :
    decl.name = other.name := by
  obtain ⟨hpackage, hname⟩ := parts_eq_of_inPackage (dot_not_mem_builderName h)
    (dot_not_mem_builderName hother) hbuilder
  exact name_eq_of_builderName h hother hpackage hname

end Plain

end ClassDecl

end BundleBuilder
