import BundleBuilder.Java.Unit
import BundleBuilder.Proofs.ClassDecl.Naming
import BundleBuilder.Proofs.Files.Writing

/-!
# Paths of units

The path of the file of a builder consists of the segments of the package and of the builder's name with
an extension, so it determines the class (`relativePath_builder`, `name_eq_of_builderPlace`). The path of
any other unit at least ends with the end of the unit's name (`getLast?_names_relativePath`).
-/

set_option autoImplicit false

namespace BundleBuilder.Java

open Files

/-- The names that a path consists of. Doubled slashes and single dots do not count. -/
def pathParts (path : String) : List String :=
  (names path).filter fun name => name ≠ "" ∧ name ≠ "."

/-- The extension of the files of units makes every name without slashes a proper one. -/
theorem isProperName_java {simple : String} (h : '/' ∉ simple.toList) :
    IsProperName (simple ++ ".java") := by
  have hends : (simple ++ ".java").toList.getLast? = some 'a' := by
    rw [String.toList_append, List.getLast?_append]
    rfl
  refine ⟨?_, ?_, ?_, ?_⟩
  · intro heq
    rw [heq] at hends
    cases hends
  · intro heq
    rw [heq] at hends
    exact absurd hends (by decide)
  · intro heq
    rw [heq] at hends
    exact absurd hends (by decide)
  · rw [String.toList_append, List.mem_append, not_or]
    exact ⟨h, by decide⟩

/-- The last name of a text with an extension has the extension as well. -/
theorem getLast?_names_append {extension : String} (hextension : '/' ∉ extension.toList)
    (text : String) :
    ∃ front last, text = front ++ last ∧ '/' ∉ last.toList ∧
      (names (text ++ extension)).getLast? = some (last ++ extension) := by
  obtain ⟨init, last, hnames⟩ : ∃ init last, names text = init ++ [last] :=
    ⟨_, _, (List.dropLast_concat_getLast (Text.split_ne_nil '/' text)).symm⟩
  have hslash : '/' ∉ last.toList :=
    not_mem_of_mem_names (hnames ▸ List.mem_append_right _ List.mem_cons_self)
  have hlast : names (last ++ extension) = [last ++ extension] := by
    refine names_of_not_mem ?_
    rw [String.toList_append, List.mem_append, not_or]
    exact ⟨hslash, hextension⟩
  have htext : text = Text.join "/" (init ++ [last]) := by
    rw [← hnames]
    exact (Text.join_split '/' text).symm
  by_cases hinit : init = []
  · rw [hinit, List.nil_append, Text.join_singleton] at htext
    refine ⟨"", last, ?_, hslash, ?_⟩
    · rw [htext, String.empty_append]
    · rw [htext, hlast]
      rfl
  · rw [Text.join_append "/" hinit (List.cons_ne_nil _ _), Text.join_singleton] at htext
    refine ⟨Text.join "/" init ++ "/", last, htext, hslash, ?_⟩
    rw [htext, String.append_assoc, names_append_slash, hlast, List.getLast?_concat]

/-- The last name of the path of a unit ends with the simple name of the unit's class. -/
theorem getLast?_names_relativePath (unit : SourceUnit) :
    ∃ front last, unit.simpleName = front ++ last ∧ '/' ∉ last.toList ∧
      (names unit.relativePath).getLast? = some (last ++ ".java") := by
  obtain ⟨front, last, hname, hslash, hlast⟩ :=
    @getLast?_names_append ".java" (by decide) unit.simpleName
  refine ⟨front, last, hname, hslash, ?_⟩
  rw [SourceUnit.relativePath, List.foldl_append, List.foldl_cons, List.foldl_nil, getLast?_names_appendPath, hlast]

/-- The file of a unit that is not named like a builder has another name than the file of any builder. -/
theorem exists_last_of_other {unit : SourceUnit}
    (hother : ∀ front, unit.simpleName ≠ front ++ "Builder") :
    ∃ last, IsProperName last ∧ (names unit.relativePath).getLast? = some last ∧
      ∀ decl : ClassDecl, last ≠ decl.builderName ++ ".java" := by
  obtain ⟨front, last, hname, hslash, hlast⟩ := getLast?_names_relativePath unit
  refine ⟨last ++ ".java", isProperName_java hslash, hlast, fun decl heq => ?_⟩
  have hchars := congrArg String.toList heq
  rw [String.toList_append, String.toList_append] at hchars
  have hbuilder := String.toList_inj.1 (List.append_cancel_right hchars)
  -- Otherwise the name of the unit would end like that of a builder.
  rw [hbuilder, ClassDecl.builderName, ← String.append_assoc] at hname
  exact hother _ hname

/-- The parts of a path that joins proper names are these names. -/
theorem pathParts_join {place : Place} (h : IsProperPlace place) (hne : place ≠ []) :
    pathParts (Text.join "/" place) = place := by
  rw [pathParts, names_join h hne]
  exact List.filter_eq_self.2 fun name hname =>
    decide_eq_true ⟨(h name hname).1, (h name hname).2.1⟩

/-- The last part of a path is its last name, if this is a proper one. -/
theorem getLast?_pathParts {path last : String} (h : IsProperName last)
    (hlast : (names path).getLast? = some last) : (pathParts path).getLast? = some last := by
  obtain ⟨init, hnames⟩ := List.getLast?_eq_some_iff.1 hlast
  have hkept : [last].filter (fun name => decide (name ≠ "" ∧ name ≠ ".")) = [last] :=
    List.filter_cons_of_pos (decide_eq_true ⟨h.1, h.2.1⟩)
  rw [pathParts, hnames, List.filter_append, hkept, List.getLast?_concat]

/-- The place of the builder's file of a class below the output directory. -/
def builderPlace (decl : ClassDecl) : Place := decl.packageSegments ++ [decl.builderName ++ ".java"]

theorem builderPlace_ne_nil (decl : ClassDecl) : builderPlace decl ≠ [] :=
  List.append_ne_nil_of_right_ne_nil _ (List.cons_ne_nil _ _)

section Plain

variable {decl other : ClassDecl} (h : decl.IsPlain)

include h

theorem isProperPlace_packageSegments : IsProperPlace decl.packageSegments := by
  intro segment hsegment
  have hmem := ClassDecl.mem_segments_of_packageSegments h hsegment
  have hdot : '.' ∉ segment.toList := Text.not_mem_of_mem_split hmem
  obtain ⟨hempty, -, hslash⟩ := h.plainName segment hmem
  refine ⟨hempty, ?_, ?_, hslash⟩
  · rintro rfl
    exact hdot List.mem_cons_self
  · rintro rfl
    exact hdot List.mem_cons_self

theorem isProperPlace_builderPlace : IsProperPlace (builderPlace decl) :=
  List.forall_mem_append.2 ⟨isProperPlace_packageSegments h,
    List.forall_mem_singleton.2 (isProperName_java (ClassDecl.slash_not_mem_builderName h))⟩

/-- The path of the builder's file joins the names of its place. -/
theorem relativePath_builder {unit : SourceUnit} (hpackage : unit.package = decl.package)
    (hsimple : unit.simpleName = decl.builderName) :
    unit.relativePath = Text.join "/" (builderPlace decl) := by
  have hdirectories : (Text.segments decl.package).filter (· ≠ "") = decl.packageSegments := by
    rw [ClassDecl.packageSegments]
    split
    · next hdefault =>
      rw [hdefault]
      rfl
    · next hstated =>
      refine List.filter_eq_self.2 fun segment hsegment => decide_eq_true ?_
      have hproper := isProperPlace_packageSegments h segment
      rw [ClassDecl.packageSegments, if_neg hstated] at hproper
      exact (hproper hsegment).1
  rw [SourceUnit.relativePath, hpackage, hsimple, hdirectories]
  exact foldl_appendPath _ (isProperPlace_builderPlace h)

/-- Classes of which the builders' files have one place have one name. -/
theorem name_eq_of_builderPlace (hother : other.IsPlain) (hplace : builderPlace decl = builderPlace other) :
    decl.name = other.name := by
  obtain ⟨hpackage, hfile⟩ := List.append_inj' hplace rfl
  have hchars := congrArg String.toList (List.singleton_inj.1 hfile)
  rw [String.toList_append, String.toList_append] at hchars
  have hname := String.toList_inj.1 (List.append_cancel_right hchars)
  exact ClassDecl.name_eq_of_builderName h hother hpackage hname

end Plain

end BundleBuilder.Java
