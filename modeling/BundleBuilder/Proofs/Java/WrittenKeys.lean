import BundleBuilder.Proofs.Controller.History
import BundleBuilder.Proofs.Controller.Inheritance
import BundleBuilder.Proofs.Java.Filling
import Mathlib.Data.List.Nodup

/-!
# The keys that a builder writes

The methods of a builder write the slots of the arguments, each argument's in one method: its key and,
if it has a codec, the key of its mark. Nothing else in the bundle changes. The keys of the arguments
are distinct, and so are those of the marks. So the slots are distinct exactly if no mark has the key
of an argument (`writtenKeys_nodup_iff`), which is not checked: an argument may name the key of a mark
as its own (`writtenKeys_repeat`).
-/

set_option autoImplicit false

namespace BundleBuilder.Java

open Table Controller

/-! ## What statements write -/

namespace Statement

mutual

/-- The keys that a statement writes in the bundle. -/
def writtenKeys : Statement → List String
  | put _ key _ | encode _ key _ | mark key => [key]
  | when _ body => writtenKeysOfAll body
  | fail _ | declare _ _ _ | assign _ _ | callSetter _ _ | other _ | space => []

/-- The keys that statements write in the bundle, in their order. -/
def writtenKeysOfAll : List Statement → List String
  | [] => []
  | statement :: statements => statement.writtenKeys ++ writtenKeysOfAll statements

end

theorem writtenKeysOfAll_append (first second : List Statement) :
    writtenKeysOfAll (first ++ second) = writtenKeysOfAll first ++ writtenKeysOfAll second := by
  induction first with
  | nil => rfl
  | cons statement first ih =>
    simp only [List.cons_append, writtenKeysOfAll, ih, List.append_assoc]

theorem writtenKeysOfAll_flatMap {α : Type} (items : List α) (body : α → List Statement) :
    writtenKeysOfAll (items.flatMap body)
      = items.flatMap fun item => writtenKeysOfAll (body item) := by
  induction items with
  | nil => rfl
  | cons item items ih => rw [List.flatMap_cons, writtenKeysOfAll_append, ih, List.flatMap_cons]

end Statement

open Statement

/-! ### Everything else stays -/

section Execution

variable {runtime : Runtime} {codecs : List (String × String)}

/-- The second frame has a bundle if the first one has, and the two bundles hold the same except at
some keys. -/
def Frame.KeepsOff (frame next : Frame runtime) (keys : List String) : Prop :=
  ∀ bundle, frame.bundle? = some bundle →
    ∃ after, next.bundle? = some after ∧ ∀ key, key ∉ keys → after key = bundle key

theorem Frame.KeepsOff.of_eq {frame next : Frame runtime} {keys : List String}
    (h : next.bundle? = frame.bundle?) : frame.KeepsOff next keys := by
  intro bundle hbundle
  exact ⟨bundle, h.trans hbundle, fun _ _ => rfl⟩

theorem Frame.KeepsOff.trans {first second third : Frame runtime} {keys others : List String}
    (h : first.KeepsOff second keys) (hnext : second.KeepsOff third others) :
    first.KeepsOff third (keys ++ others) := by
  intro bundle hbundle
  obtain ⟨between, hbetween, hkept⟩ := h bundle hbundle
  obtain ⟨after, hafter, hlater⟩ := hnext between hbetween
  refine ⟨after, hafter, ?_⟩
  intro key hkey
  rw [List.mem_append, not_or] at hkey
  rw [hlater key hkey.2, hkept key hkey.1]

theorem Frame.keepsOff_put {frame next : Frame runtime} {storage : Storage} {key name : String}
    (h : frame.put storage key name = .ok next) : frame.KeepsOff next [key] := by
  intro bundle hbundle
  rw [Frame.put] at h
  rw [hbundle] at h
  split at h
  · cases h
  · split at h
    · cases h
    · cases h
    · next found value hfound hlocal =>
      cases hfound
      split at h
      · cases h
        exact ⟨_, rfl, fun other hother => put_other (List.ne_of_not_mem_cons hother)⟩
      · cases h

theorem Frame.keepsOff_encode (hlaws : runtime.Lawful) {frame next : Frame runtime}
    {codec key name : String} (h : frame.encode codecs codec key name = .ok next) :
    frame.KeepsOff next [key] := by
  intro bundle hbundle
  rw [Frame.encode] at h
  rw [hbundle] at h
  split at h
  · cases h
  · split at h
    · cases h
    · cases h
    · cases h
    · next className found value hclass hfound hlocal =>
      cases hfound
      split at h
      · cases h
        exact ⟨_, rfl, fun other hother => hlaws.encode_other (List.ne_of_not_mem_cons hother)⟩
      · cases h

theorem Frame.keepsOff_mark {frame next : Frame runtime} {key : String}
    (h : frame.mark key = .ok next) : frame.KeepsOff next [key] := by
  intro bundle hbundle
  rw [Frame.mark] at h
  rw [hbundle] at h
  split at h
  · cases h
  · cases h
    exact ⟨_, rfl, fun other hother => mark_other (List.ne_of_not_mem_cons hother)⟩

mutual

/-- A statement changes the bundle at the keys that it writes only. -/
theorem exec_keepsOff (hlaws : runtime.Lawful) :
    ∀ (statement : Statement) {frame next : Frame runtime},
      exec codecs statement frame = .ok next → frame.KeepsOff next statement.writtenKeys
  | .put _ _ _, _, _, h => Frame.keepsOff_put h
  | .encode _ _ _, _, _, h => Frame.keepsOff_encode hlaws h
  | .mark _, _, _, h => Frame.keepsOff_mark h
  | .fail _, _, _, h => by cases h
  | .declare _ name reading, frame, next, h => by
    rw [exec] at h
    split at h
    · cases h
    · rw [Frame.declare] at h
      split at h
      · cases h
      · cases h
        exact .of_eq rfl
  | .assign _ reading, frame, next, h => by
    rw [exec] at h
    split at h
    · cases h
    · cases h
      exact .of_eq rfl
  | .callSetter _ name, frame, next, h => by
    rw [exec] at h
    split at h
    · cases h
    · cases h
      exact .of_eq rfl
  | .when condition body, frame, next, h => by
    rw [exec] at h
    split at h
    · cases h
    · cases h
      exact .of_eq rfl
    · split at h
      · cases h
      · next after hbody =>
        cases h
        have hkept := execAll_keepsOff hlaws body hbody
        exact hkept
  | .other _, _, _, h => by
    cases h
    exact .of_eq rfl
  | .space, _, _, h => by
    cases h
    exact .of_eq rfl

/-- Statements change the bundle at the keys that they write only. -/
theorem execAll_keepsOff (hlaws : runtime.Lawful) :
    ∀ (statements : List Statement) {frame next : Frame runtime},
      execAll codecs statements frame = .ok next →
        frame.KeepsOff next (writtenKeysOfAll statements)
  | [], _, _, h => by
    cases h
    exact .of_eq rfl
  | statement :: statements, _, _, h => by
    obtain ⟨between, hfirst, hrest⟩ := execAll_cons_eq_ok h
    exact (exec_keepsOff hlaws statement hfirst).trans (execAll_keepsOff hlaws statements hrest)

end

/-- A method of a builder changes the bundle at the keys that its statements write only. -/
theorem fill_other (hlaws : runtime.Lawful) {scope : BuilderScope} {method : Method}
    {parameters : List (String × runtime.Value)} {bundle filled : runtime.Bundle}
    (h : fill scope method parameters bundle = .ok filled) {key : String}
    (hkey : key ∉ writtenKeysOfAll method.body) : filled key = bundle key := by
  rw [fill] at h
  split at h
  · cases h
  · next frame hexec =>
    obtain ⟨after, hafter, hkept⟩ := execAll_keepsOff hlaws method.body hexec bundle rfl
    cases h
    rw [hafter]
    exact hkept key hkey

end Execution

/-! ## What a builder writes -/

/-- The keys that the methods of a builder write, method after method. -/
def BuilderScope.writtenKeys (scope : BuilderScope) : List String :=
  scope.methods.flatMap fun method => writtenKeysOfAll method.body

/-- Storing an argument writes the same keys with a guard and without one. -/
theorem writtenKeys_store (platform : Platform) (field : ArgField) :
    writtenKeysOfAll (store platform field)
      = writtenKeysOfAll (storing platform field field.variableName) := by
  rw [store]
  cases isGuarded field with
  | false => rfl
  | true => exact List.append_nil _

theorem writtenKeys_assignment (names : NameScope) (count : Nat) (field : ArgField) :
    writtenKeysOfAll (assignment names count field) = [] := by
  rw [assignment]
  cases readingOf? names field with
  | none => rfl
  | some reading => cases field.setter? <;> rfl

theorem writtenKeys_injection (scope : BuilderScope) (count : Nat) (field : ArgField) :
    writtenKeysOfAll (injection scope count field) = [] := by
  rw [injection]
  cases field.required with
  | true => exact writtenKeys_assignment scope.names count field
  | false => exact (List.append_nil _).trans (writtenKeys_assignment scope.names count field)

/-- Injecting arguments writes nothing. -/
theorem writtenKeys_injections (scope : BuilderScope) (fields : List ArgField) :
    ∀ count : Nat, writtenKeysOfAll (injections scope count fields) = [] := by
  induction fields with
  | nil => exact fun _ => rfl
  | cons field fields ih =>
    intro count
    rw [injections, writtenKeysOfAll_append, ih, writtenKeysOfAll, writtenKeys_injection]
    rfl

/-- The methods of a builder write what storing each argument writes, the required ones first. -/
theorem writtenKeys_eq_flatMap (scope : BuilderScope) :
    scope.writtenKeys = scope.controller.arguments.flatMap fun field =>
      writtenKeysOfAll (storing scope.platform field field.variableName) := by
  have hconstructor : writtenKeysOfAll scope.constructorMethod.body
      = scope.controller.required.values.flatMap fun field =>
          writtenKeysOfAll (storing scope.platform field field.variableName) := by
    rw [BuilderScope.constructorMethod, writtenKeysOfAll_flatMap]
    simp only [writtenKeys_store]
    rfl
  have hfluent : ∀ field, writtenKeysOfAll (scope.fluentMethod field).body
      = writtenKeysOfAll (storing scope.platform field field.variableName) := by
    intro field
    rw [BuilderScope.fluentMethod, writtenKeysOfAll_append, writtenKeys_store]
    exact List.append_nil _
  have hinject : writtenKeysOfAll (injectMethod scope).body = [] :=
    writtenKeys_injections scope scope.controller.fields 0
  rw [BuilderScope.writtenKeys, BuilderScope.methods, arguments]
  -- All other methods are made of statements without any effect on the bundle.
  simp only [List.flatMap_append, List.flatMap_cons, List.flatMap_nil, List.flatMap_map,
    hconstructor, hfluent, hinject]
  simp [BuilderScope.factoryMethod, BuilderScope.bundleMethod, BuilderScope.buildMethod,
    BuilderScope.buildGivenMethod, writtenKeysOfAll, writtenKeys]

/-- An argument with a codec or a storage is stored at its slots. -/
theorem writtenKeys_storing {controller : Controller} (hconsistent : Consistent controller)
    (platform : Platform) {field : ArgField} (hfield : field ∈ controller.fields)
    (hstored : field.codec? ≠ none ∨ field.storage? ≠ none) (value : String) :
    writtenKeysOfAll (storing platform field value) = slots platform field := by
  have hvariable := hconsistent.codec_variable
    (hconsistent.field?_eq_some_iff_mem.2 ⟨hfield, rfl⟩)
  rw [storing, slots]
  cases hcodec : field.codec? with
  | some codec =>
    rw [hcodec] at hvariable
    obtain ⟨varName, -, hown⟩ := hvariable
    rw [hown]
    rfl
  | none =>
    rw [hcodec] at hvariable hstored
    obtain ⟨storage, hstorage⟩ := Option.ne_none_iff_exists'.1 (hstored.resolve_left fun h => h rfl)
    rw [hvariable, hstorage]
    rfl

/-! ## Distinct slots -/

/-- A key among distinct slots is a slot of one argument only. -/
theorem eq_of_mem_slots {platform : Platform} {fields : List ArgField}
    (hnodup : (fields.flatMap (slots platform)).Nodup) {field other : ArgField}
    (hfield : field ∈ fields) (hother : other ∈ fields) {key : String}
    (hkey : key ∈ slots platform field) (hotherKey : key ∈ slots platform other) :
    field = other := by
  by_contra hne
  have hsymm : Std.Symm (Function.onFun List.Disjoint (slots platform)) :=
    ⟨fun _ _ h => List.disjoint_symm h⟩
  exact (List.nodup_flatMap.1 hnodup).2.forall hfield hother hne hkey hotherKey

/-- The slots of the arguments are distinct exactly if no mark stands where a value is kept. -/
theorem nodup_slots_iff {scope : BuilderScope} (hconsistent : Consistent scope.controller) :
    (scope.controller.arguments.flatMap (slots scope.platform)).Nodup ↔ SlotsApart scope := by
  constructor
  · intro hnodup field hfield hcodec other hother heq
    obtain ⟨codec, hclass⟩ := Option.ne_none_iff_exists'.1 hcodec
    have hslots : slots scope.platform field
        = [field.key, scope.platform.sentinelKey field.key] := by
      rw [slots, hclass]
    have hmark : scope.platform.sentinelKey field.key ∈ slots scope.platform field := by
      rw [hslots]
      exact List.mem_cons_of_mem _ List.mem_cons_self
    have hkey : scope.platform.sentinelKey field.key ∈ slots scope.platform other := by
      rw [heq, slots]
      cases other.codec? <;> exact List.mem_cons_self
    -- The key of the mark is a slot of both, so they are one argument, whose own slots coincide.
    have hsame := eq_of_mem_slots hnodup hfield hother hmark hkey
    have hown := (List.nodup_flatMap.1 hnodup).1 field hfield
    rw [hslots, heq, ← hsame] at hown
    exact (List.nodup_cons.1 hown).1 List.mem_cons_self
  · intro hapart
    rw [List.nodup_flatMap]
    constructor
    · intro field hfield
      rw [slots]
      cases hcodec : field.codec? with
      | none => exact List.nodup_singleton _
      | some codec =>
        have hne := hapart field hfield (by simp [hcodec]) field hfield
        simpa using hne.symm
    · -- Two arguments differ in their names, so their slots are disjoint.
      apply hconsistent.arguments_nodup.imp_of_mem
      intro field other hfield hother hne key hkey hotherKey
      have hname : field.variableName ≠ other.variableName := fun heq =>
        hne (hconsistent.eq_of_variableName_eq hfield hother heq)
      exact slots_disjoint hconsistent hapart hfield hother hname key hotherKey hkey

/-! ## Collected controllers -/

/-- A field that is accepted as an argument has a codec or a storage. -/
theorem stored_of_argument {table : ClassTable} {platform : Platform} {bounds : TypeBounds}
    {marked : MarkedField} {field : ArgField}
    (h : marked.argument table platform bounds = .ok field) :
    field.codec? ≠ none ∨ field.storage? ≠ none := by
  unfold MarkedField.argument argumentOf at h
  dsimp only at h
  split at h
  · cases h
  · next codec? hcodec =>
    split at h
    · cases h
    · next storage? hstorage =>
      cases h
      dsimp only [argumentFrom]
      unfold storageOf at hstorage
      cases codec? with
      | some codec => exact .inl (Option.some_ne_none codec)
      | none =>
        dsimp only at hstorage
        split at hstorage
        · cases hstorage
          exact .inr (Option.some_ne_none _)
        · cases hstorage

section Collected

variable {table : ClassTable} {platform : Platform} {decl : ClassDecl} {diagnostics : Diagnostics}
  {collection : Collection}

/-- The builder of a collected controller writes the slots of its arguments. -/
theorem writtenKeys_of_collect (h : collect table platform decl diagnostics = .ok collection)
    (supportPackage? : Option String) (annotations : List String) :
    (BuilderScope.ofController collection.controller platform table supportPackage?
        annotations).writtenKeys
      = collection.controller.arguments.flatMap (slots platform) := by
  have htracks := tracks_of_collect h
  rw [writtenKeys_eq_flatMap, BuilderScope.controller_ofController,
    BuilderScope.platform_ofController]
  apply List.flatMap_congr
  intro field hfield
  obtain ⟨marked, -, hargument⟩ := htracks.exists_declaring hfield
  have hstored := stored_of_argument hargument
  exact writtenKeys_storing htracks.built.consistent platform (mem_fields_iff.2 hfield) hstored
    field.variableName

/-- A method of the builder of a collected controller changes the bundle at the keys that it writes
and nowhere else, and the keys that all methods together write are the slots of the arguments. The
arguments have distinct keys. The written keys are distinct exactly if no mark of an argument stands
at the key of an argument. -/
theorem writtenKeys_nodup_iff (h : collect table platform decl diagnostics = .ok collection)
    (supportPackage? : Option String) (annotations : List String) :
    let scope := BuilderScope.ofController collection.controller platform table supportPackage?
      annotations
    (∀ runtime : Runtime, runtime.Lawful → ∀ method ∈ scope.methods,
      ∀ (parameters : List (String × runtime.Value)) (bundle filled : runtime.Bundle),
        fill scope method parameters bundle = .ok filled →
        ∀ key, key ∉ writtenKeysOfAll method.body → filled key = bundle key) ∧
    scope.writtenKeys = collection.controller.arguments.flatMap (slots platform) ∧
    (collection.controller.arguments.map ArgField.key).Nodup ∧
    (scope.writtenKeys.Nodup ↔
      ∀ field ∈ collection.controller.arguments, field.codec? ≠ none →
        ∀ other ∈ collection.controller.arguments,
          platform.sentinelKey field.key ≠ other.key) := by
  intro scope
  have hcontroller : scope.controller = collection.controller :=
    BuilderScope.controller_ofController _ _ _ _ _
  have hplatform : scope.platform = platform := BuilderScope.platform_ofController _ _ _ _ _
  have hconsistent := (tracks_of_collect h).built.consistent
  have hwritten := writtenKeys_of_collect h supportPackage? annotations
  refine ⟨?_, hwritten, ?_, ?_⟩
  · intro runtime hlaws method _ parameters bundle filled hfill key hkey
    exact fill_other hlaws hfill hkey
  · apply hconsistent.arguments_nodup.map_on
    intro field hfield other hother hkey
    exact hconsistent.eq_of_key_eq hfield hother hkey
  · rw [← hcontroller] at hconsistent
    have hslots := nodup_slots_iff hconsistent
    rw [SlotsApart, hcontroller, hplatform] at hslots
    rw [hwritten]
    exact hslots

end Collected

/-! ### A title at the key of a mark -/

/-- A codec for dates. -/
def dateCodec : ClassDecl :=
  { name := "com.example.DateBundler", modifiers := [.publicAccess],
    interfaces := [.named "com.hannesdorfmann.fragmentargs.bundler.ArgsBundler"] }

/-- A class with a date, which the codec stores, and a title with a key of its own. -/
def datedDecl (key : String) : ClassDecl :=
  { name := "com.example.Dated"
    fields :=
      [ { name := "date", type := .named "java.util.Date", modifiers := [.publicAccess],
          annotations := [⟨"Arg", .ofList [("bundler", .text "com.example.DateBundler")]⟩] },
        { name := "title", type := .named "java.lang.String", modifiers := [.publicAccess],
          annotations := [⟨"Arg", .ofList [("key", .text key)]⟩] } ] }

/-- The two classes. -/
def datedTable (key : String) : ClassTable :=
  ClassTable.empty.insertAll [dateCodec, datedDecl key]

/-- A title at the key of the date's mark is collected like any other. -/
theorem collect_dated {key : String} (hkey : key ∈ ["title", Platform.sentinelKey {} "date"]) :
    ∃ collection, collect (datedTable key) {} (datedDecl key) ⟨true, []⟩ = .ok collection ∧
      collection.diagnostics.entries = [] ∧
      collection.controller.arguments.flatMap (slots {})
        = ["date", Platform.sentinelKey {} "date", key] := by
  have hview : ∀ key ∈ ["title", Platform.sentinelKey {} "date"],
      (scanLevels (datedTable key) {} ⟨ofClass (datedDecl key) true, ⟨true, []⟩⟩
        [⟨datedDecl key, []⟩]).toOption.any (fun scanned =>
          scanned.controller.arguments.all (fun field => !scanned.controller.needsSetter field) &&
            (decide (scanned.diagnostics.entries = []) &&
              decide (scanned.controller.arguments.flatMap (slots {})
                = ["date", Platform.sentinelKey {} "date", key])))
        = true := by
    decide +kernel
  obtain ⟨collection, hcollect, hfound⟩ := exists_collect_of_scan ⟨true, []⟩
    (Level.ofController_of_top _ _ _ _ rfl) _ (hview key hkey)
  obtain ⟨hsilent, hslots⟩ := Bool.and_eq_true_iff.1 hfound
  exact ⟨collection, hcollect, of_decide_eq_true hsilent, of_decide_eq_true hslots⟩

/-- With a key that is no mark's, the three keys that are written are distinct. -/
theorem writtenKeys_distinct :
    ∃ collection, collect (datedTable "title") {} (datedDecl "title") ⟨true, []⟩ = .ok collection ∧
      (BuilderScope.ofController collection.controller {} (datedTable "title") none
        []).writtenKeys.Nodup ∧
      ∀ field ∈ collection.controller.arguments, field.codec? ≠ none →
        ∀ other ∈ collection.controller.arguments,
          Platform.sentinelKey {} field.key ≠ other.key := by
  obtain ⟨collection, hcollect, -, hslots⟩ := collect_dated List.mem_cons_self
  obtain ⟨-, hwritten, -, hiff⟩ := writtenKeys_nodup_iff hcollect none []
  have hnodup : (BuilderScope.ofController collection.controller {} (datedTable "title") none
      []).writtenKeys.Nodup := by
    rw [hwritten, hslots]
    decide +kernel
  exact ⟨collection, hcollect, hnodup, hiff.1 hnodup⟩

/-- The key of the date's mark is accepted as the key of the title, and is written twice. -/
theorem writtenKeys_repeat :
    ∃ collection, collect (datedTable (Platform.sentinelKey {} "date")) {}
        (datedDecl (Platform.sentinelKey {} "date")) ⟨true, []⟩ = .ok collection ∧
      collection.diagnostics.entries = [] ∧
      ¬ (BuilderScope.ofController collection.controller {}
        (datedTable (Platform.sentinelKey {} "date")) none []).writtenKeys.Nodup := by
  obtain ⟨collection, hcollect, hsilent, hslots⟩ :=
    collect_dated (List.mem_cons_of_mem _ List.mem_cons_self)
  refine ⟨collection, hcollect, hsilent, ?_⟩
  rw [writtenKeys_of_collect hcollect, hslots]
  decide +kernel

end BundleBuilder.Java
