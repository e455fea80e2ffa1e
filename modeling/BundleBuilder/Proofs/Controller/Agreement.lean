import BundleBuilder.Controller.Collect
import BundleBuilder.Proofs.ClassTable.Agreement
import BundleBuilder.Proofs.Controller.Ancestry

/-!
# Collecting from tables that agree

Where two class tables agree, a controller is collected from them with the same outcome: the same
controller and diagnostics, or the same failure (`Agree.collect_eq`). Codecs, storage and the levels of
a controller depend on what the table finds, and nothing on the way looks at its order.
-/

set_option autoImplicit false

namespace BundleBuilder.ClassTable.Agree

open Table Controller

variable {first second : ClassTable} (h : Agree first second) (platform : Platform)

include h

/-! ## Codecs and storage -/

theorem qualify_eq (package name : String) :
    Codec.qualify first package name = Codec.qualify second package name := by
  simp only [Codec.qualify, h.contains_eq]

theorem defect?_eq (name : String) :
    Codec.defect? first platform name = Codec.defect? second platform name := by
  simp only [Codec.defect?, h name, h.contains_eq, h.isSubclass_eq]

theorem ofMarker_eq (marker : Annotation) (package element : String) :
    Codec.ofMarker first platform marker package element
      = Codec.ofMarker second platform marker package element := by
  simp only [Codec.ofMarker, h.qualify_eq, h.defect?_eq]

theorem storage_eq (bounds : TypeBounds) (type : JavaType) :
    Storage.ofType? first platform bounds type = Storage.ofType? second platform bounds type := by
  simp only [Storage.ofType?, Storage.structural?, h.isAssignable_eq]

/-! ## Levels -/

theorem parent?_eq (level : Level) : level.parent? first platform = level.parent? second platform := by
  unfold Level.parent?
  split
  · rw [h]
  · rfl

theorem climb_eq (seen : List String) (level : Level) :
    Level.climb first platform seen level = Level.climb second platform seen level := by
  induction seen, level using Level.climb.induct first platform with
  | case1 seen level ih =>
    rw [Level.climb_eq, Level.climb_eq second, ← h.parent?_eq]
    cases hparent : level.parent? first platform with
    | none => rfl
    | some parent =>
      by_cases hnew : seen.contains parent.decl.name = true
      · simp only [if_pos hnew]
      · simp only [if_neg hnew, ih parent hparent hnew]

theorem ofController_eq (decl : ClassDecl) (inherited : Bool) :
    Level.ofController first platform decl inherited
      = Level.ofController second platform decl inherited := by
  simp only [Level.ofController, h.climb_eq]

/-! ## Scans -/

theorem argumentOf_eq (bounds : TypeBounds) (level : Level) (decl : FieldDecl) (marker : Annotation) :
    argumentOf first platform bounds level decl marker
      = argumentOf second platform bounds level decl marker := by
  simp only [argumentOf, storageOf, h.ofMarker_eq, h.storage_eq]

theorem scanField_eq (level : Level) (collection : Collection) (decl : FieldDecl) :
    scanField first platform level collection decl
      = scanField second platform level collection decl := by
  simp only [scanField, h.argumentOf_eq]

theorem scanFields_eq (level : Level) (decls : List FieldDecl) : ∀ collection : Collection,
    scanFields first platform level collection decls
      = scanFields second platform level collection decls := by
  induction decls with
  | nil =>
    intro collection
    rfl
  | cons decl decls ih =>
    intro collection
    simp only [scanFields, h.scanField_eq, ih]

theorem scanLevels_eq (levels : List Level) : ∀ collection : Collection,
    scanLevels first platform collection levels = scanLevels second platform collection levels := by
  induction levels with
  | nil =>
    intro collection
    rfl
  | cons level levels ih =>
    intro collection
    simp only [scanLevels, h.scanFields_eq, ih]

/-- A controller is collected with the same outcome. -/
theorem collect_eq (decl : ClassDecl) (diagnostics : Diagnostics) :
    collect first platform decl diagnostics = collect second platform decl diagnostics := by
  simp only [collect, h.ofController_eq, h.scanLevels_eq]

end BundleBuilder.ClassTable.Agree
