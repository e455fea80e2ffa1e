import BundleBuilder.Java.Unit
import BundleBuilder.Proofs.Controller.AdditionOrder

/-!
# Units do not show the order of the declarations

A unit lists the arguments of its controller in the order of their names and does not look at the key
table. So if the arguments have no codecs, the text of the unit does not depend on the order in which
they were declared; otherwise the controllers correspond up to a renaming of the codec variables
(`declared_in_any_order`).
-/

set_option autoImplicit false

namespace BundleBuilder.Java

open Table

/-- The scope of a builder whose controller has another key table. -/
def BuilderScope.withKeys (scope : BuilderScope) (keys : InsertionTable String) : BuilderScope :=
  { scope with controller := { scope.controller with keys } }

/-! ## The key table is not read -/

section Keys

variable (scope : BuilderScope) (keys : InsertionTable String)

theorem injectionStepsOfAll_withKeys (fields : List ArgField) : ∀ count : Nat,
    injectionStepsOfAll (scope.withKeys keys) count fields = injectionStepsOfAll scope count fields := by
  induction fields with
  | nil => exact fun _ => rfl
  | cons field fields ih =>
    intro count
    simp only [injectionStepsOfAll, ih]
    rfl

theorem injectSteps_withKeys : (scope.withKeys keys).injectSteps = scope.injectSteps := by
  simp only [BuilderScope.injectSteps, injectionStepsOfAll_withKeys]
  rfl

/-- The unit of a builder is the same with another key table. -/
theorem builderUnit_withKeys : builderUnit (scope.withKeys keys) = builderUnit scope := by
  simp only [builderUnit, builderSteps, BuilderScope.classSteps, injectSteps_withKeys]
  rfl

end Keys

theorem ofController_withKeys (controller : Controller) (keys : InsertionTable String)
    (platform : Platform) (table : ClassTable) (supportPackage? : Option String)
    (annotations : List String) :
    BuilderScope.ofController { controller with keys } platform table supportPackage? annotations
      = (BuilderScope.ofController controller platform table supportPackage? annotations).withKeys
          keys := by
  cases supportPackage? <;> rfl

/-! ## Any order -/

/-- Arguments with distinct variable names and distinct keys are all added to a class, in whatever
order, each to the set that it says it belongs to. Two orders lead to the same arguments and the same
codecs, up to one renaming of the codec variables. If no argument has a codec, the text of the builder
is the same. -/
theorem declared_in_any_order (decl : ClassDecl) (inherited : Bool) {fields others : List ArgField}
    (hperm : fields.Perm others) (hfresh : ∀ field ∈ fields, field.codecVariable? = none)
    (hnames : (fields.map ArgField.variableName).Nodup) (hkeys : (fields.map ArgField.key).Nodup) :
    ∃ first second,
      (Controller.addAll (.ofClass decl inherited) fields = .ok first ∧
        Controller.addAll (.ofClass decl inherited) others = .ok second) ∧
      ((first.required.values.map ArgField.bare).Perm (fields.filter (·.required)) ∧
        (first.optional.values.map ArgField.bare).Perm (fields.filter (!·.required))) ∧
      (∃ rename, Controller.Corresponds rename first second) ∧
      ((∀ field ∈ fields, field.codec? = none) →
        ∀ (platform : Platform) (table : ClassTable) (supportPackage? : Option String)
          (annotations : List String),
          builderUnit (.ofController first platform table supportPackage? annotations)
            = builderUnit (.ofController second platform table supportPackage? annotations)) := by
  obtain ⟨first, hfirst, hadded⟩ := Controller.exists_addAll decl inherited hfresh hnames hkeys
  obtain ⟨second, hsecond, hother⟩ := Controller.exists_addAll decl inherited
    (fun field hfield => hfresh field (hperm.mem_iff.2 hfield))
    ((hperm.map _).nodup_iff.1 hnames) ((hperm.map _).nodup_iff.1 hkeys)
  have hreordered := hother.of_perm hperm.symm
  refine ⟨first, second, ⟨hfirst, hsecond⟩, ⟨hadded.required, hadded.optional⟩,
    ⟨_, hadded.corresponds hreordered⟩, ?_⟩
  intro hplain platform table supportPackage? annotations
  have hscope := ofController_withKeys first second.keys platform table supportPackage? annotations
  rw [hadded.eq_withKeys hplain hreordered, hscope, builderUnit_withKeys]

/-- Two arguments with codecs can be added in either order, and two arguments without codecs give the
same unit in either order. -/
theorem declared_in_any_order_profile :
    (∃ first second rename,
      Controller.addAll (.ofClass Controller.profileDecl true)
          [Controller.profileField "mTitle" "title" (some "com.example.Title"),
            Controller.profileField "date" "date" (some "com.example.Date")] = .ok first ∧
        Controller.addAll (.ofClass Controller.profileDecl true)
          [Controller.profileField "date" "date" (some "com.example.Date"),
            Controller.profileField "mTitle" "title" (some "com.example.Title")] = .ok second ∧
        Controller.Corresponds rename first second) ∧
    ∃ first second,
      Controller.addAll (.ofClass Controller.profileDecl true)
          [Controller.profileField "mTitle" "title" none, Controller.profileField "date" "date" none]
        = .ok first ∧
      Controller.addAll (.ofClass Controller.profileDecl true)
          [Controller.profileField "date" "date" none, Controller.profileField "mTitle" "title" none]
        = .ok second ∧
      builderUnit (.ofController first {} .empty none [])
        = builderUnit (.ofController second {} .empty none []) := by
  constructor
  · obtain ⟨first, second, ⟨hfirst, hsecond⟩, -, ⟨rename, hcorresponds⟩, -⟩ :=
      declared_in_any_order Controller.profileDecl true
        (.swap (Controller.profileField "date" "date" (some "com.example.Date"))
          (Controller.profileField "mTitle" "title" (some "com.example.Title")) [])
        (by decide +kernel) (by decide +kernel) (by decide +kernel)
    exact ⟨first, second, rename, hfirst, hsecond, hcorresponds⟩
  · obtain ⟨first, second, ⟨hfirst, hsecond⟩, -, -, hunit⟩ :=
      declared_in_any_order Controller.profileDecl true
        (.swap (Controller.profileField "date" "date" none)
          (Controller.profileField "mTitle" "title" none) [])
        (by decide +kernel) (by decide +kernel) (by decide +kernel)
    exact ⟨first, second, hfirst, hsecond, hunit (by decide +kernel) {} .empty none []⟩

end BundleBuilder.Java
