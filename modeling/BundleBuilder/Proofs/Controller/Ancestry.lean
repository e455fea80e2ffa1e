import BundleBuilder.Controller.Ancestry
import Mathlib.Data.List.Chain

/-!
# The way up from a controller

Whatever the class table says about superclasses, circles included, the levels of a controller are
pairwise distinct classes, begin with the class itself, and each further one is the parent of the
one before.
-/

set_option autoImplicit false

namespace BundleBuilder.Level

variable (table : ClassTable) (platform : Platform)

theorem climb_eq (seen : List String) (level : Level) :
    climb table platform seen level = level ::
      match level.parent? table platform with
      | none => []
      | some parent =>
        if seen.contains parent.decl.name = true then []
        else climb table platform (parent.decl.name :: seen) parent := by
  rw [climb]
  congr 1
  split <;> simp_all

/-- The levels from a level upwards are distinct classes, and none above was entered before. -/
theorem names_climb (seen : List String) (level : Level) (hseen : level.decl.name ∈ seen) :
    ((climb table platform seen level).map fun level => level.decl.name).Nodup ∧
      ∀ above ∈ (climb table platform seen level).tail, above.decl.name ∉ seen := by
  induction seen, level using climb.induct table platform with
  | case1 seen level ih =>
    rw [climb_eq]
    cases hparent : level.parent? table platform with
    | none => simp
    | some parent =>
      by_cases hnew : seen.contains parent.decl.name = true
      · simp only [hnew, if_true]
        exact ⟨by simp, by simp⟩
      · obtain ⟨hnodup, habove⟩ := ih parent hparent hnew List.mem_cons_self
        have hfresh : parent.decl.name ∉ seen := by
          intro hmem
          exact hnew (List.contains_iff_mem.2 hmem)
        have hall : ∀ above ∈ climb table platform (parent.decl.name :: seen) parent,
            above.decl.name ∉ seen := by
          intro above hmem
          rw [climb_eq] at hmem habove
          rcases List.mem_cons.1 hmem with rfl | htail
          · exact hfresh
          · intro hin
            exact habove above htail (List.mem_cons_of_mem _ hin)
        simp only [hnew, Bool.false_eq_true, if_false, List.map_cons, List.tail_cons]
        refine ⟨List.nodup_cons.2 ⟨?_, hnodup⟩, hall⟩
        rintro hmem
        obtain ⟨above, hin, hname⟩ := List.mem_map.1 hmem
        apply hall above hin
        rw [hname]
        exact hseen

/-- Each level is the parent of the one before. -/
theorem isChain_climb (seen : List String) (level : Level) :
    (climb table platform seen level).IsChain fun child parent =>
      child.parent? table platform = some parent := by
  induction seen, level using climb.induct table platform with
  | case1 seen level ih =>
    rw [climb_eq]
    cases hparent : level.parent? table platform with
    | none => exact .singleton level
    | some parent =>
      by_cases hnew : seen.contains parent.decl.name = true
      · simp only [hnew, if_true]
        exact .singleton level
      · have hchain := ih parent hparent hnew
        simp only [hnew, Bool.false_eq_true, if_false]
        rw [climb_eq] at hchain ⊢
        exact .cons_cons hparent hchain

section OfController

variable (decl : ClassDecl) (inherited : Bool)

theorem head?_ofController :
    (ofController table platform decl inherited).head? = some ⟨decl, []⟩ := by
  rw [ofController]
  cases inherited with
  | false => rfl
  | true =>
    simp only [if_true]
    rw [climb_eq]
    rfl

/-- A class without a parent to climb to is its only level. -/
theorem ofController_of_top (htop : parent? table platform ⟨decl, []⟩ = none) :
    ofController table platform decl inherited = [⟨decl, []⟩] := by
  rw [ofController]
  cases inherited with
  | false => rfl
  | true => rw [if_pos rfl, climb_eq, htop]

/-- No class is a level of a controller twice. -/
theorem names_ofController_nodup :
    ((ofController table platform decl inherited).map fun level => level.decl.name).Nodup := by
  rw [ofController]
  cases inherited with
  | false => simp
  | true =>
    simp only [if_true]
    exact (names_climb table platform [decl.name] ⟨decl, []⟩ List.mem_cons_self).1

theorem isChain_ofController :
    (ofController table platform decl inherited).IsChain fun child parent =>
      child.parent? table platform = some parent := by
  rw [ofController]
  cases inherited with
  | false => exact .singleton _
  | true =>
    simp only [if_true]
    exact isChain_climb table platform [decl.name] ⟨decl, []⟩

end OfController

end BundleBuilder.Level
