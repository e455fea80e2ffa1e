/-!
# Names not yet seen

A search that remembers the names it has met ends because the names not yet met become fewer. This
is the measure of every search in the library: over the supertypes of a class, over the chain of
superclasses and over the imports of a file.
-/

set_option autoImplicit false

namespace BundleBuilder.Table

/-- The number of entries of `names` that are not in `seen`. -/
def unseen (names seen : List String) : Nat :=
  names.countP fun name => !seen.contains name

/-- Meeting a further name never makes more names unseen. -/
theorem unseen_cons_le (names seen : List String) (name : String) :
    unseen names (name :: seen) ≤ unseen names seen := by
  refine List.countP_mono_left fun head _ h => ?_
  simp only [List.contains_cons, Bool.not_or, Bool.and_eq_true] at h
  exact h.2

/-- Meeting a listed name for the first time leaves fewer names unseen. -/
theorem unseen_cons_lt {names seen : List String} {name : String} (hmem : name ∈ names)
    (hnew : seen.contains name = false) : unseen names (name :: seen) < unseen names seen := by
  induction names with
  | nil => simp at hmem
  | cons head tail ih =>
    have hle := unseen_cons_le tail seen name
    have hcount : ∀ s, unseen (head :: tail) s
        = unseen tail s + if (!s.contains head) = true then 1 else 0 :=
      fun s => List.countP_cons
    rw [hcount, hcount]
    by_cases heq : head = name
    · subst heq
      rw [if_neg (by simp), if_pos (by rw [hnew]; rfl)]
      omega
    · have hin : name ∈ tail := (List.mem_cons.1 hmem).resolve_left fun e => heq e.symm
      have hlt := ih hin
      by_cases hs : seen.contains head = true
      · rw [if_neg (by simp_all), if_neg (by simp_all)]
        omega
      · rw [if_pos (by simp_all), if_pos (by simp_all)]
        omega

end BundleBuilder.Table
