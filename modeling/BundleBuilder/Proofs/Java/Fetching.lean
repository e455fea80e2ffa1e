import BundleBuilder.Java.Injector
import BundleBuilder.Proofs.ClassTable.Reflexivity

/-!
# Lists that are fetched from a bundle

A type is stored as a list if it can be assigned to a certain type of lists. When the list is fetched
it is assigned in the other direction, without a cast, and the list that comes out of the bundle is
of the class of lists itself. So the assignment is legal if the type is of that class, with any type
argument or none, and, unless other classes are in a circle with the class of lists, only then
(`fetched_list_fits_iff`). A subclass of the class of lists, and a type variable that is bounded by
a type of lists, are stored as lists as well, but what is fetched does not fit them
(`fetched_list_misfit`).
-/

set_option autoImplicit false

namespace BundleBuilder.Java

open ClassTable Storage

variable {table : ClassTable} {platform : Platform} {bounds : TypeBounds}

/-! ## What is stored and what is fetched -/

/-- The storages of lists. -/
def listStorages : List Storage := [.stringList, .integerList, .charSequenceList, .parcelableList]

/-- The type argument of the lists that a storage takes. -/
inductive StoresListOf (platform : Platform) : Storage → JavaType → Prop where
  | string : StoresListOf platform .stringList (.named "java.lang.String")
  | integer : StoresListOf platform .integerList (.named "java.lang.Integer")
  | charSequence : StoresListOf platform .charSequenceList (.named "java.lang.CharSequence")
  | parcelable :
      StoresListOf platform .parcelableList (.wildcardExtends (.named platform.parcelableClass))

/-- An element type of the lists that the getter of a storage returns. For parcelable elements it is
a type parameter of the getter, for which any type within the bound may be put. -/
inductive ReturnsListOf (table : ClassTable) (platform : Platform) (bounds : TypeBounds) :
    Storage → JavaType → Prop where
  | string : ReturnsListOf table platform bounds .stringList (.named "java.lang.String")
  | integer : ReturnsListOf table platform bounds .integerList (.named "java.lang.Integer")
  | charSequence :
      ReturnsListOf table platform bounds .charSequenceList (.named "java.lang.CharSequence")
  | parcelable {element : JavaType} :
      table.isAssignable bounds element (.named platform.parcelableClass) = true →
      ReturnsListOf table platform bounds .parcelableList element

/-- Some list that the getter of a storage returns can be assigned to a field of the type. -/
def FetchFits (table : ClassTable) (platform : Platform) (bounds : TypeBounds) (storage : Storage)
    (type : JavaType) : Prop :=
  ∃ element, ReturnsListOf table platform bounds storage element ∧
    table.isAssignable bounds (listOf platform element) type = true

/-- A type that is stored as a list can be assigned to the lists that its storage takes. -/
theorem exists_storesListOf {type : JavaType} {storage : Storage} (hlist : storage ∈ listStorages)
    (hstored : Storage.ofType? table platform bounds type = some storage) :
    ∃ arg, StoresListOf platform storage arg ∧
      table.isAssignable bounds type (listOf platform arg) = true := by
  -- Neither a single value nor an array of values is a list, so a structural type decides.
  have hstructural : structural? table platform bounds type = some storage := by
    rw [Storage.ofType?] at hstored
    split at hstored
    · rw [← Option.some.inj hstored] at hlist
      simp [listStorages] at hlist
    · split at hstored
      · next harray =>
        rw [Option.some.inj hstored] at harray
        cases type with
        | array element =>
          obtain ⟨kind, -, rfl⟩ := Option.map_eq_some_iff.1 harray
          simp [listStorages] at hlist
        | _ => cases harray
      · exact hstored
  obtain ⟨⟨target, found⟩, hfind, rfl⟩ := Option.map_eq_some_iff.1 hstructural
  have hmem := List.mem_of_find?_eq_some hfind
  have hassignable := List.find?_some hfind
  simp only [structuralTypes, List.mem_cons, Prod.mk.injEq, List.not_mem_nil, or_false] at hmem
  rcases hmem with ⟨rfl, rfl⟩ | ⟨rfl, rfl⟩ | ⟨rfl, rfl⟩ | ⟨rfl, rfl⟩ | ⟨-, rfl⟩ | ⟨-, rfl⟩ | ⟨-, rfl⟩
  · exact ⟨_, .string, hassignable⟩
  · exact ⟨_, .integer, hassignable⟩
  · exact ⟨_, .charSequence, hassignable⟩
  · exact ⟨_, .parcelable, hassignable⟩
  all_goals simp [listStorages] at hlist

/-! ## Types of the class of lists -/

/-- If a type of the class of lists can be assigned to another one, it is raw or has one argument,
which is admitted. -/
theorem argument_of_isAssignable_listOf {args : List JavaType} {arg : JavaType}
    (h : table.isAssignable bounds (.declared platform.arrayListClass args) (listOf platform arg)
      = true) :
    args = [] ∨ ∃ own, args = [own] ∧
      ∃ depth, admits (assignableWithin table bounds depth) arg own = some true := by
  obtain ⟨depth, hwithin⟩ := isAssignable_eq_true_iff.1 h
  cases depth with
  | zero => cases hwithin
  | succ depth =>
    rw [listOf, assignableWithin_sameClass, if_neg (by simp [isObject, JavaType.named]),
      admitsView] at hwithin
    cases args with
    | nil => exact .inl rfl
    | cons own rest =>
      cases rest with
      | cons second rest => simp at hwithin
      | nil =>
        refine .inr ⟨own, rfl, depth, ?_⟩
        simp only [List.isEmpty_cons, Bool.or_self, Bool.false_eq_true, if_false, if_true,
          List.length_singleton, admitsAll] at hwithin
        split at hwithin
        · assumption
        · exact hwithin

/-- A list whose element type is admitted by the argument of a type can be assigned to it. -/
theorem isAssignable_of_admits {arg element : JavaType} {depth : Nat}
    (h : admits (assignableWithin table bounds depth) arg element = some true) :
    table.isAssignable bounds (listOf platform element) (listOf platform arg) = true := by
  refine isAssignable_eq_true_iff.2 ⟨depth + 1, ?_⟩
  rw [listOf, listOf, assignableWithin_sameClass]
  split
  · rfl
  · simp [admitsView, admitsAll, h]

/-- Every list can be assigned to the raw type. -/
theorem isAssignable_raw (element : JavaType) :
    table.isAssignable bounds (listOf platform element) (.named platform.arrayListClass) = true := by
  refine isAssignable_eq_true_iff.2 ⟨1, ?_⟩
  rw [listOf, JavaType.named, assignableWithin_sameClass]
  split <;> rfl

/-- Every formed type that stands for values is an object. -/
theorem assignableWithin_object {type : JavaType} (h : type.IsFormedAt .element) (depth : Nat) :
    assignableWithin table bounds (depth + 2) type (.named objectName) = some true := by
  cases type with
  | void | wildcard => cases h
  | wildcardExtends bound | wildcardSuper bound => cases h.1
  | _ => rfl

/-- What is no wildcard is admitted by an upper bounded one if it can be assigned to the bound. -/
theorem admits_wildcardExtends (ask : JavaType → JavaType → Option Bool) {bound source : JavaType}
    (h : source.IsFormedAt .element) :
    admits ask (.wildcardExtends bound) source = ask source bound := by
  cases source with
  | wildcard => cases h
  | wildcardExtends inner | wildcardSuper inner => cases h.1
  | _ => rfl

/-! ## Finding an element type -/

variable (table bounds) in
theorem isAssignable_self_of_element {type : JavaType} (h : type.IsFormedAt .element) :
    table.isAssignable bounds type type = true :=
  isAssignable_of_within (assignableWithin_self table bounds type h _ (Nat.le_refl _))

variable (table bounds) in
/-- Every getter of lists returns lists of some element type. -/
theorem exists_returnsListOf {storage : Storage} {arg : JavaType}
    (h : StoresListOf platform storage arg) :
    ∃ element, ReturnsListOf table platform bounds storage element := by
  cases h with
  | string => exact ⟨_, .string⟩
  | integer => exact ⟨_, .integer⟩
  | charSequence => exact ⟨_, .charSequence⟩
  | parcelable => exact ⟨_, .parcelable (isAssignable_self_of_element table bounds trivial)⟩

/-- A type argument within an upper bound admits some element type within that bound. -/
theorem exists_element_within {bound : String} {own : JavaType} {depth : Nat}
    (hown : own.IsFormedAt .argument)
    (hadmits : admits (assignableWithin table bounds depth) (.wildcardExtends (.named bound)) own
      = some true) :
    ∃ element, table.isAssignable bounds element (.named bound) = true ∧
      ∃ deeper, admits (assignableWithin table bounds deeper) own element = some true := by
  have hself : table.isAssignable bounds (.named bound) (.named bound) = true :=
    isAssignable_self_of_element table bounds trivial
  have hitself (hanswer : assignableWithin table bounds depth own (.named bound) = some true)
      (helement : own.IsFormedAt .element) :
      ∃ element, table.isAssignable bounds element (.named bound) = true ∧
        ∃ deeper, admits (assignableWithin table bounds deeper) own element = some true :=
    ⟨own, isAssignable_of_within hanswer, 0, admits_self_of_element _ helement⟩
  cases own with
  | wildcard => exact ⟨_, hself, 0, rfl⟩
  | wildcardExtends inner =>
    refine ⟨inner, isAssignable_of_within hadmits, inner.size, ?_⟩
    rw [admits_wildcardExtends _ hown.2]
    exact assignableWithin_self table bounds inner hown.2 _ (Nat.le_refl _)
  | wildcardSuper inner =>
    have hobject : JavaType.named bound = .named objectName :=
      beq_iff_eq.1 (Option.some.inj hadmits)
    refine ⟨.named bound, hself, 2, ?_⟩
    rw [hobject]
    exact assignableWithin_object hown.2 0
  | declared name args => exact hitself hadmits hown
  | array element => exact hitself hadmits hown
  | typeVariable name => exact hitself hadmits hown
  | primitive kind => exact absurd rfl hown
  | void => cases hown

/-- A type argument that the stored lists admit admits an element type of the fetched ones. -/
theorem exists_element {storage : Storage} {arg own : JavaType} {depth : Nat}
    (hstores : StoresListOf platform storage arg) (hown : own.IsFormedAt .argument)
    (hadmits : admits (assignableWithin table bounds depth) arg own = some true) :
    ∃ element, ReturnsListOf table platform bounds storage element ∧
      ∃ deeper, admits (assignableWithin table bounds deeper) own element = some true := by
  have hexact (name : String) (hname : arg = .named name) :
      admits (assignableWithin table bounds 0) own (.named name) = some true := by
    rw [hname] at hadmits
    have hsame : JavaType.named name = own := beq_iff_eq.1 (Option.some.inj hadmits)
    rw [← hsame]
    exact admits_self_of_element _ trivial
  cases hstores with
  | string => exact ⟨_, .string, 0, hexact _ rfl⟩
  | integer => exact ⟨_, .integer, 0, hexact _ rfl⟩
  | charSequence => exact ⟨_, .charSequence, 0, hexact _ rfl⟩
  | parcelable =>
    obtain ⟨element, hwithin, hdeeper⟩ := exists_element_within hown hadmits
    exact ⟨element, .parcelable hwithin, hdeeper⟩

/-- What is fetched fits every type of the class of lists. -/
theorem fetchFits_of_declaredName? {type : JavaType} {storage : Storage} {arg : JavaType}
    (hstores : StoresListOf platform storage arg) (hformed : type.IsFormedAt .element)
    (hassignable : table.isAssignable bounds type (listOf platform arg) = true)
    (hname : type.declaredName? = some platform.arrayListClass) :
    FetchFits table platform bounds storage type := by
  obtain ⟨args, rfl⟩ := JavaType.exists_of_declaredName? hname
  rcases argument_of_isAssignable_listOf hassignable with rfl | ⟨own, rfl, depth, hadmits⟩
  · obtain ⟨element, hreturns⟩ := exists_returnsListOf table bounds hstores
    exact ⟨element, hreturns, isAssignable_raw element⟩
  · obtain ⟨element, hreturns, deeper, helement⟩ := exists_element hstores hformed.1 hadmits
    exact ⟨element, hreturns, isAssignable_of_admits helement⟩

/-! ## Types of other classes -/

/-- A declared type can be assigned to types of classes only, of which its class is a subclass. -/
theorem isSubclass_of_isAssignable (hvars : table.NoVariableSupertypes) {name : String}
    {args : List JavaType} {target : JavaType}
    (h : table.isAssignable bounds (.declared name args) target = true) :
    ∃ sup, target.declaredName? = some sup ∧ table.isSubclass name sup = true := by
  obtain ⟨depth, hwithin⟩ := isAssignable_eq_true_iff.1 h
  cases depth with
  | zero => cases hwithin
  | succ depth =>
    cases target with
    | declared sup targetArgs =>
      refine ⟨sup, rfl, ?_⟩
      rw [assignableWithin_declared] at hwithin
      rw [isSubclass, Bool.or_eq_true]
      split at hwithin
      · next hobject =>
        have hroot : JavaType.declared sup targetArgs = .named objectName := beq_iff_eq.1 hobject
        exact .inl (beq_iff_eq.2 (JavaType.declared.inj hroot).1)
      · cases hview : table.supertypeAs? (.declared name args) sup with
        | none =>
          rw [hview] at hwithin
          cases hwithin
        | some view =>
          obtain ⟨⟨viewArgs, rfl⟩, hreaches⟩ := reaches_of_supertypeAs? hview
          obtain ⟨sub, hsub, hways⟩ := hreaches.inheritsFrom hvars rfl
          obtain rfl : name = sub := Option.some.inj hsub
          exact .inr (supertypeAs?_isSome hways [])
    | _ => cases hwithin

/-- If what is fetched fits a type that is stored as a list, the type is of a class that is both a
subclass and a superclass of the class of lists. -/
theorem FetchFits.exists_class (hvars : table.NoVariableSupertypes) {type : JavaType}
    {storage : Storage} {arg : JavaType}
    (hassignable : table.isAssignable bounds type (listOf platform arg) = true)
    (h : FetchFits table platform bounds storage type) :
    ∃ name, type.declaredName? = some name ∧
      table.isSubclass name platform.arrayListClass = true ∧
      table.isSubclass platform.arrayListClass name = true := by
  obtain ⟨element, -, hfits⟩ := h
  obtain ⟨name, hname, habove⟩ := isSubclass_of_isAssignable hvars hfits
  obtain ⟨args, rfl⟩ := JavaType.exists_of_declaredName? hname
  obtain ⟨sup, hsup, hbelow⟩ := isSubclass_of_isAssignable hvars hassignable
  obtain rfl : platform.arrayListClass = sup := Option.some.inj hsup
  exact ⟨name, rfl, hbelow, habove⟩

/-! ## The condition -/

/-- An argument that is stored as a list is assigned without a cast when it is fetched. If its type is
of the class of lists, raw or with any argument, some list that the getter returns can be assigned to
it. Where no other class is both above and below the class of lists, this is the only case: what is
fetched fits neither a subclass nor a type variable. -/
theorem fetched_list_fits_iff (table : ClassTable) (platform : Platform) (bounds : TypeBounds)
    (params : List String) {text : String} {read : JavaType} {storage : Storage}
    (hread : JavaType.parse text = .ok read) (hlist : storage ∈ listStorages)
    (hstored : Storage.ofType? table platform bounds (read.normalize params) = some storage) :
    (∀ (names : NameScope) (field : ArgField), field.codecVariable? = none →
      field.storage? = some storage →
        readingOf? names field = some (.fetch storage field.key none)) ∧
    ((read.normalize params).declaredName? = some platform.arrayListClass →
      FetchFits table platform bounds storage (read.normalize params)) ∧
    (table.NoVariableSupertypes →
      (∀ name, table.isSubclass name platform.arrayListClass = true →
        table.isSubclass platform.arrayListClass name = true → name = platform.arrayListClass) →
      FetchFits table platform bounds storage (read.normalize params) →
        (read.normalize params).declaredName? = some platform.arrayListClass) := by
  obtain ⟨arg, hstores, hassignable⟩ := exists_storesListOf hlist hstored
  refine ⟨fun names field hcodec hfield => ?_, fun hname => ?_, fun hvars hcircle hfits => ?_⟩
  · rw [readingOf?, hcodec, hfield]
    cases hstores <;> rfl
  · have hformed : (read.normalize params).IsFormedAt .element := by
      apply (JavaType.isFormed_of_parse params hread).element_of_whole
      intro hvoid
      rw [hvoid] at hname
      cases hname
    exact fetchFits_of_declaredName? hstores hformed hassignable hname
  · obtain ⟨name, hname, hbelow, habove⟩ := hfits.exists_class hvars hassignable
    rw [hname, hcircle name hbelow habove]

/-! ### Lists of strings -/

/-- The class of lists, and a subclass of lists of strings. -/
def stringLists : ClassTable :=
  empty.insertAll
    [ { name := "java.util.ArrayList", typeParameters := [{ name := "E" }] },
      { name := "com.example.StringList",
        superclass? := some (.declared "java.util.ArrayList" [.named "java.lang.String"]) } ]

/-- A variable for parcelable values, and one for lists of strings. -/
def listVariables : TypeBounds :=
  [("P", [.named "android.os.Parcelable"]),
    ("L", [.declared "java.util.ArrayList" [.named "java.lang.String"]])]

/-- Only the root, which is not known, lies above the class of lists. -/
theorem supertypeAs?_arrayList (args : List JavaType) {target : String}
    (h : target ∉ ["java.util.ArrayList", objectName]) :
    stringLists.supertypeAs? (.declared "java.util.ArrayList" args) target = none := by
  simp only [List.mem_cons, List.not_mem_nil, or_false, not_or] at h
  have hstep : (stringLists.find? "java.util.ArrayList").map (supertypeStep · args) =
      some [.named objectName] := by
    cases args <;> rfl
  rw [supertypeAs?, searchSupertype_enter (Ne.symm h.1) List.not_mem_nil hstep, List.cons_append,
    JavaType.named, searchSupertype_unknown (Ne.symm h.2) (by decide +kernel), List.nil_append,
    searchSupertype]

/-- Lists of strings are tried first. -/
theorem ofType?_stringList {type : JavaType} (hname : ElementKind.ofType? platform type = none)
    (harray : ofArray? platform type = none)
    (h : table.isAssignable bounds type (listOf platform (.named "java.lang.String")) = true) :
    Storage.ofType? table platform bounds type = some .stringList := by
  rw [Storage.ofType?, hname, harray]
  simp only [structural?, structuralTypes, List.find?_cons, h, Option.map_some]

/-- A variable can be assigned to a class that its first bound can be assigned to. -/
theorem assignableWithin_bound {name target : String} {upper : JavaType}
    {uppers targetArgs : List JavaType} {depth : Nat}
    (hbound : bounds.find? name = some (upper :: uppers))
    (h : assignableWithin table bounds depth upper (.declared target targetArgs) = some true) :
    assignableWithin table bounds (depth + 1) (.typeVariable name) (.declared target targetArgs) =
      some true := by
  have hround : assignableWithin table bounds (depth + 1) (.typeVariable name)
        (.declared target targetArgs) =
      if isObject (.declared target targetArgs) ||
          JavaType.declared target targetArgs == .typeVariable name then some true
      else anyAssignable (assignableWithin table bounds depth) (.declared target targetArgs)
        ((bounds.find? name).getD []) := rfl
  rw [hround, hbound, Option.getD_some, anyAssignable, h]
  split <;> rfl

/-- Lists of unknown parcelable values are lists of nothing else that a bundle can hold. -/
theorem ofType?_parcelables :
    Storage.ofType? stringLists {} listVariables
      (.declared "java.util.ArrayList" [.wildcardExtends (.typeVariable "P")]) =
        some .parcelableList := by
  have hexact (name : String) : stringLists.isAssignable listVariables
      (.declared "java.util.ArrayList" [.wildcardExtends (.typeVariable "P")])
      (listOf {} (.named name)) = false := by
    have hround : stringLists.assignableWithin listVariables 1
        (.declared "java.util.ArrayList" [.wildcardExtends (.typeVariable "P")])
        (listOf {} (.named name)) = some false := by
      rw [listOf, assignableWithin_sameClass]
      rfl
    exact isAssignable_of_within hround
  have hbound : admits (assignableWithin stringLists listVariables 2)
      (.wildcardExtends (.named "android.os.Parcelable"))
      (.wildcardExtends (.typeVariable "P")) = some true :=
    assignableWithin_bound rfl
      (assignableWithin_self _ _ (.named "android.os.Parcelable") trivial 1 (by decide))
  have hwithin : stringLists.isAssignable listVariables
      (.declared "java.util.ArrayList" [.wildcardExtends (.typeVariable "P")])
      (listOf {} (.wildcardExtends (.named "android.os.Parcelable"))) = true :=
    isAssignable_of_admits hbound
  have hname : ElementKind.ofType? {}
      (.declared "java.util.ArrayList" [.wildcardExtends (.typeVariable "P")]) = none := rfl
  have harray : ofArray? {}
      (.declared "java.util.ArrayList" [.wildcardExtends (.typeVariable "P")]) = none := rfl
  rw [Storage.ofType?, hname, harray]
  simp only [structural?, structuralTypes, List.find?_cons, hexact, hwithin, Option.map_some]

/-- A variable that stands for lists of strings is stored like its bound. -/
theorem ofType?_listVariable :
    Storage.ofType? stringLists {} listVariables (.typeVariable "L") = some .stringList := by
  apply ofType?_stringList rfl rfl
  refine isAssignable_eq_true_iff.2 ⟨3, ?_⟩
  exact assignableWithin_bound rfl (assignableWithin_self _ _
    (listOf {} (.named "java.lang.String")) ⟨trivial, trivial⟩ 2 (by decide))

/-- No other class is both below and above the class of lists. -/
theorem stringLists_antisymm (name : String)
    (hbelow : stringLists.isSubclass name "java.util.ArrayList" = true)
    (habove : stringLists.isSubclass "java.util.ArrayList" name = true) :
    name = "java.util.ArrayList" := by
  by_cases hroot : name = objectName
  · have hnone : stringLists.supertypeAs? (.named objectName) "java.util.ArrayList" = none := by
      rw [supertypeAs?, JavaType.named, searchSupertype_unknown (by decide) (by decide +kernel),
        searchSupertype]
    rw [hroot, isSubclass, hnone] at hbelow
    exact absurd hbelow (by decide)
  · apply Classical.byContradiction
    intro hother
    rw [isSubclass, JavaType.named, supertypeAs?_arrayList [] (by simp [hother, hroot])] at habove
    simp [hroot] at habove

/-- Lists of unknown parcelable values fit, but lists of strings do not fit a variable that stands for
such lists. -/
theorem fetched_list_fits_variables :
    let list : JavaType := .declared "java.util.ArrayList" [.wildcardExtends (.typeVariable "P")]
    JavaType.parse "java.util.ArrayList<? extends P>" =
        .ok (.declared "java.util.ArrayList" [.wildcardExtends (.named "P")]) ∧
      .parcelableList ∈ listStorages ∧
      Storage.ofType? stringLists {} listVariables list = some .parcelableList ∧
      FetchFits stringLists {} listVariables .parcelableList list ∧
      JavaType.parse "L" = .ok (.named "L") ∧
      Storage.ofType? stringLists {} listVariables (.typeVariable "L") = some .stringList ∧
      stringLists.NoVariableSupertypes ∧
      (∀ name, stringLists.isSubclass name "java.util.ArrayList" = true →
        stringLists.isSubclass "java.util.ArrayList" name = true → name = "java.util.ArrayList") ∧
      ¬ FetchFits stringLists {} listVariables .stringList (.typeVariable "L") := by
  intro list
  have hlist : JavaType.parse "java.util.ArrayList<? extends P>" =
      .ok (.declared "java.util.ArrayList" [.wildcardExtends (.named "P")]) :=
    JavaType.parse_eq_ok_of_text (by decide +kernel) (by decide +kernel)
  have hvariable : JavaType.parse "L" = .ok (.named "L") :=
    JavaType.parse_eq_ok_of_text (by decide +kernel) (by decide +kernel)
  have hvars : stringLists.NoVariableSupertypes := by decide +kernel
  refine ⟨hlist, by decide, ofType?_parcelables, ?_, hvariable, ofType?_listVariable, hvars,
    stringLists_antisymm, ?_⟩
  · exact (fetched_list_fits_iff stringLists {} listVariables ["P", "L"] hlist (by decide)
      ofType?_parcelables).2.1 rfl
  · intro hfits
    have hname := (fetched_list_fits_iff stringLists {} listVariables ["P", "L"] hvariable
      (by decide) ofType?_listVariable).2.2 hvars stringLists_antisymm hfits
    cases hname

/-- A subclass of lists of strings is stored like such a list, but no list that is fetched fits it. -/
theorem fetched_list_misfit :
    JavaType.parse "com.example.StringList" = .ok (.named "com.example.StringList") ∧
      Storage.ofType? stringLists {} [] (.named "com.example.StringList") = some .stringList ∧
      ∀ element, ReturnsListOf stringLists {} [] .stringList element →
        stringLists.isAssignable [] (listOf {} element) (.named "com.example.StringList") = false := by
  refine ⟨?_, ?_, fun element hreturns => ?_⟩
  · exact JavaType.parse_eq_ok_of_text (by decide +kernel) (by decide +kernel)
  · apply ofType?_stringList (by decide) rfl
    refine isAssignable_eq_true_iff.2 ⟨1, ?_⟩
    have hstep : (stringLists.find? "com.example.StringList").map (supertypeStep · []) =
        some [listOf {} (.named "java.lang.String")] := by decide +kernel
    rw [JavaType.named, listOf, assignableWithin_declared, supertypeAs?,
      searchSupertype_enter (by decide) List.not_mem_nil hstep, List.cons_append, listOf,
      searchSupertype_found]
    rfl
  · have hround : stringLists.assignableWithin [] 1 (listOf {} element)
        (.named "com.example.StringList") = some false := by
      rw [listOf, JavaType.named, assignableWithin_declared, supertypeAs?_arrayList _ (by decide)]
      rfl
    exact isAssignable_of_within hround

end BundleBuilder.Java
