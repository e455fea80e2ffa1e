import BundleBuilder.Proofs.Controller.Agreement
import BundleBuilder.Proofs.Generation.Isolation
import BundleBuilder.Proofs.Java.Agreement

/-!
# Runs over tables that agree

Runs over class tables that agree differ at most in the order of their diagnostics (`Agree.run_eq`).
The candidates are sorted by their names, which are distinct, so they are processed in the same order.
Only the two preliminary passes go through the classes in the order of the table, and all they do is
to report.
-/

set_option autoImplicit false

namespace BundleBuilder

open Table Java Generation

/-- Two generations differ at most in the order of their diagnostics. -/
structure Generation.EqualUpToOrder (first second : Generation) : Prop where
  units : first.units = second.units
  controllers : first.controllers = second.controllers
  routes : first.routes = second.routes
  diagnostics : first.diagnostics.entries.Perm second.diagnostics.entries

namespace Generation

theorem EqualUpToOrder.addDispatch {first second : Generation} (h : EqualUpToOrder first second)
    (options : Options) : EqualUpToOrder (addDispatch options first) (addDispatch options second) := by
  rw [Generation.addDispatch, Generation.addDispatch, h.routes]
  split
  · exact h
  · exact ⟨by rw [h.units], h.controllers, rfl, h.diagnostics⟩

/-- What is reported before any candidate is processed. -/
def preliminaryEntries (table : ClassTable) (options : Options) : List Diagnostic :=
  supportEntries table options ++ strayEntries table options ++ unmarkedEntries table options

/-- A run is what the candidates contribute behind the preliminary entries, with the dispatch class. -/
theorem run_eq_contributed (table : ClassTable) (options : Options) :
    run table options = addDispatch options
      (contributed table options (usesSupport table options)
        { diagnostics := ⟨options.logWarnings, preliminaryEntries table options⟩ }
        (candidates table options.platform)) := by
  rw [run, preliminary_eq]
  exact congrArg (addDispatch options) (foldl_step_eq_contributed table options _ _ _ rfl)

end Generation

namespace ClassTable

namespace Agree

variable {first second : ClassTable} (h : Agree first second) (options : Options)

include h

/-! ## Candidates -/

theorem isController_eq (platform : Platform) (name : String) :
    isController first platform name = isController second platform name := by
  simp only [isController, h.isSubclass_eq]

theorem isCandidate_eq (platform : Platform) :
    isCandidate first platform = isCandidate second platform := by
  funext decl
  simp only [isCandidate, h.isController_eq]

/-- The candidates are the same, in the same order: no two classes have the same name. -/
theorem candidates_eq (platform : Platform) : candidates first platform = candidates second platform := by
  have hperm : (candidates first platform).Perm (candidates second platform) := by
    have hclasses := h.classes_perm.filter (isCandidate first platform)
    rw [h.isCandidate_eq] at hclasses
    have hfirst := candidates_perm first platform
    rw [h.isCandidate_eq] at hfirst
    exact hfirst.trans (hclasses.trans (candidates_perm second platform).symm)
  apply hperm.eq_of_pairwise ?_ (candidates_pairwise first platform)
    (candidates_pairwise second platform)
  intro decl other hdecl hother hle hge
  have hname : decl.name = other.name := String.le_antisymm hle hge
  have hfirst := (mem_classes_iff first decl).1
    (List.mem_filter.1 ((candidates_perm first platform).mem_iff.1 hdecl)).1
  have hsecond := (mem_classes_iff second other).1
    (List.mem_filter.1 ((candidates_perm second platform).mem_iff.1 hother)).1
  rw [h, hname, hsecond] at hfirst
  exact (Option.some.inj hfirst).symm

/-! ## Contributions -/

theorem alone_eq : alone first options = alone second options := by
  funext decl
  simp only [alone, attempt, h.isController_eq, h.collect_eq]

theorem acceptedAmong_eq (decls : List ClassDecl) :
    acceptedAmong first options decls = acceptedAmong second options decls := by
  have haccepted : acceptedAlone? first options = acceptedAlone? second options := by
    funext decl
    simp only [acceptedAlone?, h.alone_eq]
  rw [acceptedAmong, acceptedAmong, haccepted]

theorem entriesAlone_eq : entriesAlone first options = entriesAlone second options := by
  funext decl
  simp only [entriesAlone, h.alone_eq]

theorem builderOf_eq (support : Bool) :
    builderOf first options support = builderOf second options support := by
  funext controller
  exact builderUnit_eq h controller options.platform _ options.builderAnnotations

/-! ## Preliminary diagnostics -/

theorem usesSupport_eq : usesSupport first options = usesSupport second options := by
  simp only [usesSupport, h.contains_eq]

theorem supportEntries_eq : supportEntries first options = supportEntries second options := by
  simp only [supportEntries, h.contains_eq]

theorem strayEntries_perm : (strayEntries first options).Perm (strayEntries second options) := by
  have hcontroller : (fun decl : ClassDecl => !isController first options.platform decl.name)
      = fun decl => !isController second options.platform decl.name := by
    funext decl
    rw [h.isController_eq]
  apply List.Perm.map
  rw [strayArguments, strayArguments, hcontroller]
  exact (h.classes_perm.filter _).flatMap_right _

theorem unmarkedEntries_perm :
    (unmarkedEntries first options).Perm (unmarkedEntries second options) := by
  rw [unmarkedEntries, unmarkedEntries, unmarkedCandidates, unmarkedCandidates, h.isCandidate_eq]
  split
  · exact (h.classes_perm.filter _).map _
  · exact .refl _

theorem preliminaryEntries_perm :
    (preliminaryEntries first options).Perm (preliminaryEntries second options) := by
  rw [preliminaryEntries, preliminaryEntries, h.supportEntries_eq]
  exact ((h.strayEntries_perm options).append_left _).append (h.unmarkedEntries_perm options)

/-! ## Runs -/

/-- Runs over tables that agree differ at most in the order of their diagnostics. -/
theorem run_eq : EqualUpToOrder (run first options) (run second options) := by
  rw [run_eq_contributed, run_eq_contributed, h.candidates_eq, h.usesSupport_eq]
  apply EqualUpToOrder.addDispatch
  simp only [contributed, h.acceptedAmong_eq, h.builderOf_eq, h.entriesAlone_eq]
  exact ⟨rfl, rfl, rfl, (h.preliminaryEntries_perm options).append_right _⟩

end Agree

end ClassTable

end BundleBuilder
