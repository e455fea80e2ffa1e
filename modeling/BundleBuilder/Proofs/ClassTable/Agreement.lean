import BundleBuilder.ClassTable.Assignability
import BundleBuilder.Proofs.ClassTable.Reachability
import Mathlib.Data.List.Nodup

/-!
# Tables that agree

Two class tables agree if they find the same class under every name. The order in which classes became
known is then all that may differ between them: they list the same classes (`Agree.classes_perm`), and
all questions about types have the same answer in both (`Agree.isAssignable_eq`). Classes of distinct
names may be inserted in any order (`Agree.insertAll_perm`).
-/

set_option autoImplicit false

namespace BundleBuilder.ClassTable

open Table

/-- A table lists the classes that it finds under their names. -/
theorem mem_classes_iff (table : ClassTable) (decl : ClassDecl) :
    decl ∈ table.classes ↔ table.find? decl.name = some decl := by
  constructor
  · intro hmem
    obtain ⟨⟨name, other⟩, hentry, rfl⟩ := List.mem_map.1 hmem
    have hname : other.name = name := table.named _ hentry
    rw [hname]
    exact (table.byName.mem_entries_iff name other).1 hentry
  · exact mem_classes_of_find?

/-- Two tables find the same class under every name. -/
def Agree (first second : ClassTable) : Prop :=
  ∀ name, first.find? name = second.find? name

namespace Agree

variable {first second : ClassTable}

theorem refl (table : ClassTable) : Agree table table := fun _ => rfl

theorem contains_eq (h : Agree first second) (name : String) :
    first.contains name = second.contains name :=
  congrArg Option.isSome (h name)

/-! ## Insertions -/

theorem insert (h : Agree first second) (decl : ClassDecl) :
    Agree (first.insert decl) (second.insert decl) := by
  intro name
  simp only [find?, ClassTable.insert, InsertionTable.find?_insert]
  split
  · rfl
  · exact h name

/-- It does not matter which of two classes of different names is inserted first. -/
theorem insert_swap (h : Agree first second) {decl other : ClassDecl} (hne : decl.name ≠ other.name) :
    Agree ((first.insert decl).insert other) ((second.insert other).insert decl) := by
  intro name
  simp only [find?, ClassTable.insert, InsertionTable.find?_insert]
  by_cases hother : name = other.name
  · have hdecl : name ≠ decl.name := fun heq => hne (heq.symm.trans hother)
    rw [if_pos hother, if_neg hdecl, if_pos hother]
  · rw [if_neg hother, if_neg hother]
    split
    · rfl
    · exact h name

theorem insertAll (decls : List ClassDecl) : ∀ {first second : ClassTable},
    Agree first second → Agree (first.insertAll decls) (second.insertAll decls) := by
  induction decls with
  | nil => exact id
  | cons decl decls ih =>
    intro first second h
    exact ih (h.insert decl)

/-- Classes of distinct names may be inserted in any order. -/
theorem insertAll_perm {decls others : List ClassDecl} (hperm : decls.Perm others) :
    ∀ {first second : ClassTable}, Agree first second → (decls.map ClassDecl.name).Nodup →
      Agree (first.insertAll decls) (second.insertAll others) := by
  induction hperm with
  | nil =>
    intro first second h _
    exact h
  | cons decl _ ih =>
    intro first second h hnodup
    exact ih (h.insert decl) (List.nodup_cons.1 hnodup).2
  | swap decl other rest =>
    intro first second h hnodup
    have hne : other.name ≠ decl.name := by
      intro heq
      apply (List.nodup_cons.1 hnodup).1
      rw [heq]
      exact List.mem_cons_self
    exact (h.insert_swap hne).insertAll rest
  | @trans decls middle others hfirst _ ihFirst ihSecond =>
    intro first second h hnodup
    have hmiddle := ihFirst h hnodup
    have hothers := ihSecond (refl second) ((hfirst.map ClassDecl.name).nodup_iff.1 hnodup)
    intro name
    rw [hmiddle name, hothers name]

/-! ## What is listed -/

/-- Tables that agree list the same classes. -/
theorem classes_perm (h : Agree first second) : first.classes.Perm second.classes := by
  have hentries : first.byName.entries.Perm second.byName.entries := by
    rw [List.perm_ext_iff_of_nodup (.of_map Prod.fst first.byName.keys_nodup)
      (.of_map Prod.fst second.byName.keys_nodup)]
    rintro ⟨name, decl⟩
    rw [InsertionTable.mem_entries_iff, InsertionTable.mem_entries_iff]
    rw [show first.byName.find? name = second.byName.find? name from h name]
  exact hentries.map Prod.snd

/-! ## Questions about types -/

theorem searchSupertype_eq (h : Agree first second) (target : String) (entered : List String)
    (pending : List JavaType) :
    first.searchSupertype target entered pending = second.searchSupertype target entered pending := by
  induction entered, pending using searchSupertype.induct first target with
  | case1 entered => rw [searchSupertype, searchSupertype]
  | case2 entered args pending =>
    rw [searchSupertype_declared, searchSupertype_declared, if_pos rfl, if_pos rfl]
  | case3 entered name args pending hother hseen ih =>
    rw [searchSupertype_declared, searchSupertype_declared, if_neg hother, if_neg hother,
      if_pos hseen, if_pos hseen, ih]
  | case4 entered name args pending hother hnew hfind ih =>
    rw [searchSupertype_declared, searchSupertype_declared, if_neg hother, if_neg hother,
      if_neg hnew, if_neg hnew, ← h name, hfind, ih]
  | case5 entered name args pending hother hnew decl hfind ih =>
    rw [searchSupertype_declared, searchSupertype_declared, if_neg hother, if_neg hother,
      if_neg hnew, if_neg hnew, ← h name, hfind]
    exact ih
  | case6 entered type pending hdeclared ih =>
    rw [searchSupertype, searchSupertype, ih]
    · exact hdeclared
    · exact hdeclared

theorem supertypeAs?_eq (h : Agree first second) (type : JavaType) (target : String) :
    first.supertypeAs? type target = second.supertypeAs? type target :=
  h.searchSupertype_eq target [] [type]

theorem isSubclass_eq (h : Agree first second) (sub sup : String) :
    first.isSubclass sub sup = second.isSubclass sub sup := by
  rw [isSubclass, isSubclass, h.supertypeAs?_eq]

theorem assignableWithin_eq (h : Agree first second) (bounds : TypeBounds) (depth : Nat) :
    first.assignableWithin bounds depth = second.assignableWithin bounds depth := by
  induction depth with
  | zero => rfl
  | succ depth ih =>
    funext source target
    unfold assignableWithin
    rw [ih]
    simp only [h.supertypeAs?_eq]

theorem isAssignable_eq (h : Agree first second) (bounds : TypeBounds) (source target : JavaType) :
    first.isAssignable bounds source target = second.isAssignable bounds source target := by
  rw [isAssignable, isAssignable, assignability?, assignability?]
  simp only [h.assignableWithin_eq]

end Agree

end BundleBuilder.ClassTable
