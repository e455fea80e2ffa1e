import BundleBuilder.Proofs.Controller.History
import BundleBuilder.Proofs.Controller.Inheritance
import BundleBuilder.Proofs.Java.Filling
import Mathlib

/-!
# The names of parameters

The constructor of a builder and the methods of its optional arguments take parameters that have the
variable names of the arguments. Dropping the marker of a field's name leaves an identifier, and no
two parameters of the constructor have one name. But what is left may be a reserved word, or the name
of a field of the builder that the statements use. Which fields do that can be told from their names
alone: the marked forms of such words, and the names of codec variables
(`hasUsableParameters_iff`).
-/

set_option autoImplicit false

namespace BundleBuilder

/-! ## Marked forms -/

theorem isUpperLetter_eq (c : Char) : isUpperLetter c = c.isUpper := by
  simp only [isUpperLetter, Char.isUpper, Char.le_def]
  exact (Bool.decide_and _ _).symm

/-- The names that lose their marker and become a given word. -/
def markedForms (word : String) : List String :=
  match word.toList with
  | [] => []
  | first :: rest =>
    if first.isLower then
      [String.ofList ('m' :: first.toUpper :: rest), String.ofList ('_' :: first :: rest),
        String.ofList ('_' :: first.toUpper :: rest)]
    else []

/-- A character that is a marker in front of the next one. -/
def IsMarker (marker next : Char) : Prop :=
  marker = 'm' ∧ next.isUpper = true ∨ marker = '_' ∧ next.isAlpha = true

theorem IsMarker.isAlpha {marker next : Char} (h : IsMarker marker next) :
    next.isAlpha = true := by
  rcases h with ⟨-, hupper⟩ | ⟨-, halpha⟩
  · rw [Char.isAlpha, hupper]
    rfl
  · exact halpha

theorem unmarkedName_of_isMarker {marker next : Char} {rest : List Char}
    (h : IsMarker marker next) :
    unmarkedName (String.ofList (marker :: next :: rest))
      = String.ofList (next.toLower :: rest) := by
  rw [unmarkedName, String.toList_ofList]
  apply if_pos
  rcases h with ⟨rfl, hupper⟩ | ⟨rfl, halpha⟩
  · rw [isUpperLetter_eq, hupper]
    rfl
  · rw [halpha]
    simp

/-- A name either loses its marker or stays as it is. -/
theorem unmarkedName_cases (name : String) :
    (∃ marker next rest, name = String.ofList (marker :: next :: rest) ∧ IsMarker marker next) ∨
      unmarkedName name = name := by
  rw [unmarkedName]
  split
  · next marker next rest hchars =>
    split
    · next hmarker =>
      refine .inl ⟨marker, next, rest, ?_, ?_⟩
      · rw [← hchars, String.ofList_toList]
      · simpa [IsMarker, isUpperLetter_eq] using hmarker
    · exact .inr rfl
  · exact .inr rfl

theorem mem_markedForms {marker next : Char} {rest : List Char} (h : IsMarker marker next) :
    String.ofList (marker :: next :: rest) ∈ markedForms (String.ofList (next.toLower :: rest)) := by
  have hlower : next.toLower.isLower = true := by
    rw [Char.isLower_toLower_eq_isAlpha, h.isAlpha]
  rw [markedForms, String.toList_ofList]
  dsimp only
  rw [if_pos hlower, Char.toUpper_toLower_eq_toUpper]
  by_cases hupper : next.isUpper = true
  · rw [Char.toUpper_eq_of_not_isLower (Char.not_isLower_of_isUpper hupper)]
    rcases h with ⟨rfl, -⟩ | ⟨rfl, -⟩
    · exact List.mem_cons_self
    · exact List.mem_cons_of_mem _ (List.mem_cons_of_mem _ List.mem_cons_self)
  · -- A lower case letter can stand behind an underscore only.
    rcases h with ⟨-, hmarked⟩ | ⟨rfl, -⟩
    · exact absurd hmarked hupper
    · rw [Char.toLower_eq_of_not_isUpper hupper]
      exact List.mem_cons_of_mem _ List.mem_cons_self

theorem unmarkedName_of_mem_markedForms {name word : String} (h : name ∈ markedForms word) :
    unmarkedName name = word := by
  rw [markedForms] at h
  split at h
  · cases h
  · next first rest hchars =>
    split at h
    · next hlower =>
      have halpha : first.isAlpha = true := by
        rw [Char.isAlpha, hlower, Bool.or_true]
      have hupper : first.toUpper.isUpper = true := by
        rw [Char.isUpper_toUpper_eq_isAlpha, halpha]
      have hupperAlpha : first.toUpper.isAlpha = true := by
        rw [Char.isAlpha_toUpper_eq_isAlpha, halpha]
      have hword : String.ofList (first.toLower :: rest) = word := by
        rw [Char.toLower_eq_of_not_isUpper (Char.not_isUpper_of_isLower hlower), ← hchars,
          String.ofList_toList]
      simp only [List.mem_cons, List.not_mem_nil, or_false] at h
      rcases h with rfl | rfl | rfl
      · rw [unmarkedName_of_isMarker (.inl ⟨rfl, hupper⟩), Char.toLower_toUpper_eq_toLower, hword]
      · rw [unmarkedName_of_isMarker (.inr ⟨rfl, halpha⟩), hword]
      · rw [unmarkedName_of_isMarker (.inr ⟨rfl, hupperAlpha⟩), Char.toLower_toUpper_eq_toLower,
          hword]
    · cases h

/-- What a name becomes, read backwards: a word comes from its marked forms, and from itself if it is
not marked. -/
theorem unmarkedName_eq_iff {name word : String} :
    unmarkedName name = word ↔ name ∈ markedForms word ∨ name = word ∧ unmarkedName name = name := by
  constructor
  · rintro rfl
    rcases unmarkedName_cases name with ⟨marker, next, rest, rfl, hmarker⟩ | hsame
    · rw [unmarkedName_of_isMarker hmarker]
      exact .inl (mem_markedForms hmarker)
    · exact .inr ⟨hsame.symm, hsame⟩
  · rintro (hform | ⟨rfl, hsame⟩)
    · exact unmarkedName_of_mem_markedForms hform
    · exact hsame

/-- A name becomes one of some words if it is a marked form of one of them, or one of them itself
without a marker. -/
theorem unmarkedName_mem_iff {name : String} {words : List String} :
    unmarkedName name ∈ words ↔
      name ∈ words.flatMap markedForms ∨ name ∈ words ∧ unmarkedName name = name := by
  rw [List.mem_flatMap]
  constructor
  · intro hmem
    rcases unmarkedName_eq_iff.1 (rfl : unmarkedName name = unmarkedName name) with hform | ⟨-, hsame⟩
    · exact .inl ⟨_, hmem, hform⟩
    · exact .inr ⟨hsame ▸ hmem, hsame⟩
  · rintro (⟨word, hword, hform⟩ | ⟨hmem, hsame⟩)
    · rw [unmarkedName_eq_iff.2 (.inl hform)]
      exact hword
    · rw [hsame]
      exact hmem

/-! ## Identifiers -/

namespace Java

open Table Controller

/-- The characters that identifiers begin with and continue with. The letters of ASCII are among
those at the beginning. -/
structure IdentifierChars where
  begins : Char → Bool
  continues : Char → Bool
  begins_of_isAlpha {c : Char} : c.isAlpha = true → begins c = true

/-- A name that is made of the characters of identifiers. -/
def IsIdentifier (chars : IdentifierChars) (name : String) : Prop :=
  name.toList.head?.any chars.begins = true ∧ name.toList.tail.all chars.continues = true

instance (chars : IdentifierChars) (name : String) : Decidable (IsIdentifier chars name) :=
  inferInstanceAs (Decidable (_ ∧ _))

/-- The words that are no names: the keywords and the literals. -/
def reservedWords : List String :=
  [ "abstract", "assert", "boolean", "break", "byte", "case", "catch", "char", "class", "const",
    "continue", "default", "do", "double", "else", "enum", "extends", "final", "finally", "float",
    "for", "goto", "if", "implements", "import", "instanceof", "int", "interface", "long", "native",
    "new", "package", "private", "protected", "public", "return", "short", "static", "strictfp",
    "super", "switch", "synchronized", "this", "throw", "throws", "transient", "try", "void",
    "volatile", "while", "_", "true", "false", "null" ]

/-- A name that a field or a parameter may have. -/
def IsLegalName (chars : IdentifierChars) (name : String) : Prop :=
  IsIdentifier chars name ∧ name ∉ reservedWords

instance (chars : IdentifierChars) (name : String) : Decidable (IsLegalName chars name) :=
  inferInstanceAs (Decidable (_ ∧ _))

/-- The fields that are declared at some levels have legal names. -/
def HasLegalFields (chars : IdentifierChars) (levels : List Level) : Prop :=
  ∀ level ∈ levels, ∀ field ∈ level.decl.fields, IsLegalName chars field.name

/-- What is left of an identifier without its marker is an identifier. -/
theorem IsIdentifier.unmarkedName {chars : IdentifierChars} {name : String}
    (h : IsIdentifier chars name) : IsIdentifier chars (unmarkedName name) := by
  rcases unmarkedName_cases name with ⟨marker, next, rest, rfl, hmarker⟩ | hsame
  · rw [unmarkedName_of_isMarker hmarker]
    obtain ⟨-, hcontinues⟩ := h
    rw [IsIdentifier]
    rw [String.toList_ofList] at hcontinues ⊢
    refine ⟨?_, (Bool.and_eq_true_iff.1 hcontinues).2⟩
    apply chars.begins_of_isAlpha
    rw [Char.isAlpha_toLower_eq_isAlpha, hmarker.isAlpha]
  · rw [hsame]
    exact h

/-! ## Parameters -/

/-- The names of the fields of a builder: the bundle and the codecs. -/
def memberNames (controller : Controller) : List String :=
  "mArguments" :: controller.codecs.values

/-- The parameters of the constructor and of the methods of optional arguments have names that are
legal, distinct and not those of the builder's fields. -/
structure HasUsableParameters (chars : IdentifierChars) (controller : Controller) : Prop where
  legal : ∀ field ∈ controller.arguments, IsLegalName chars field.variableName
  distinct : (controller.required.values.map ArgField.variableName).Nodup
  apart : ∀ field ∈ controller.arguments, field.variableName ∉ memberNames controller

/-- The names of fields that no parameter can be made of. -/
def unusableNames (controller : Controller) : List String :=
  controller.codecs.values ++ (memberNames controller ++ reservedWords).flatMap markedForms

/-- A parameter that is no field of the builder hides none. -/
theorem HasUsableParameters.hygienic {chars : IdentifierChars} {controller : Controller}
    (hconsistent : Consistent controller) (h : HasUsableParameters chars controller) :
    Hygienic controller := by
  have hcodec : ∀ field ∈ controller.arguments, ∀ codec, field.codecVariable? = some codec →
      codec ∈ memberNames controller := by
    intro field hfield codec hvariable
    rw [hconsistent.codecVariable?_eq (mem_fields_iff.2 hfield), Option.bind_eq_some_iff] at hvariable
    obtain ⟨className, -, hfind⟩ := hvariable
    have hentry := (InsertionTable.mem_entries_iff _ _ _).2 hfind
    exact List.mem_cons_of_mem _ (List.mem_map_of_mem (f := Prod.snd) hentry)
  refine ⟨?_, ?_, ?_⟩
  · intro field hfield heq
    apply h.apart field hfield
    rw [heq]
    exact List.mem_cons_self
  · intro field hfield other hother hvariable
    exact h.apart other (List.mem_append_left _ hother)
      (hcodec field (List.mem_append_left _ hfield) _ hvariable)
  · intro field hfield hvariable
    have hmem : field ∈ controller.arguments := List.mem_append_right _ hfield
    exact h.apart field hmem (hcodec field hmem _ hvariable)

/-- The variable of a codec has no marker. -/
theorem unmarkedName_codecVariable {controller : Controller} (hconsistent : Consistent controller)
    {varName : String} (hvariable : varName ∈ controller.codecs.values) :
    unmarkedName varName = varName := by
  rw [hconsistent.codecs_numbered, List.mem_map] at hvariable
  obtain ⟨number, -, rfl⟩ := hvariable
  have hchars : ("bundler" ++ toString (number + 1)).toList
      = 'b' :: 'u' :: ("ndler".toList ++ (toString (number + 1)).toList) := by
    rw [String.toList_append]
    rfl
  rw [unmarkedName, hchars]
  rfl

/-- A legal name of a field makes a parameter with the name of a field of the builder, or with a
reserved word, exactly if it is one of the unusable ones. -/
theorem variableName_taken_iff {controller : Controller} (hconsistent : Consistent controller)
    {name : String} (hlegal : name ∉ reservedWords) :
    unmarkedName name ∈ memberNames controller ++ reservedWords ↔
      name ∈ unusableNames controller := by
  rw [unmarkedName_mem_iff, unusableNames, List.mem_append (s := controller.codecs.values), or_comm]
  apply or_congr_left
  rw [List.mem_append, memberNames, List.mem_cons, or_assoc]
  constructor
  · rintro ⟨rfl | hcodec | hreserved, hsame⟩
    · exact absurd hsame (by decide +kernel)
    · exact hcodec
    · exact absurd hreserved hlegal
  · intro hcodec
    exact ⟨.inr (.inl hcodec), unmarkedName_codecVariable hconsistent hcodec⟩

section Collected

variable {chars : IdentifierChars} {table : ClassTable} {platform : Platform} {decl : ClassDecl}
  {diagnostics : Diagnostics} {collection : Collection}

/-- A collected argument has the name of a field of a level. -/
theorem legal_of_collect (h : collect table platform decl diagnostics = .ok collection)
    (hlegal : HasLegalFields chars (Level.ofController table platform decl
      (scanInherited platform decl diagnostics).1)) :
    ∀ field ∈ collection.controller.arguments, IsLegalName chars field.name := by
  intro field hfield
  obtain ⟨level, hlevel, fieldDecl, hdeclared, hname, -⟩ :=
    exists_level_of_field h (mem_fields_iff.2 hfield)
  rw [hname]
  exact hlegal level hlevel fieldDecl hdeclared

/-- Where the fields of the scanned classes have legal names, the parameters of a builder have
identifiers as names, and those of the constructor are distinct. They are usable exactly if no
argument's field has one of the unusable names: the variable of a codec, or a form with a marker of
such a variable, of `mArguments` or of a reserved word. Usable parameters hide nothing that the
statements of the builder use. -/
theorem hasUsableParameters_iff (h : collect table platform decl diagnostics = .ok collection)
    (hlegal : HasLegalFields chars (Level.ofController table platform decl
      (scanInherited platform decl diagnostics).1)) :
    (∀ field ∈ collection.controller.arguments, IsIdentifier chars field.variableName) ∧
    (collection.controller.required.values.map ArgField.variableName).Nodup ∧
    (HasUsableParameters chars collection.controller ↔
      ∀ field ∈ collection.controller.arguments,
        field.name ∉ unusableNames collection.controller) ∧
    (HasUsableParameters chars collection.controller → Hygienic collection.controller) := by
  have hconsistent := (tracks_of_collect h).built.consistent
  have hnames := legal_of_collect h hlegal
  have hidentifiers : ∀ field ∈ collection.controller.arguments,
      IsIdentifier chars field.variableName := fun field hfield =>
    (hnames field hfield).1.unmarkedName
  have hdistinct := hconsistent.requiredNames_nodup
  refine ⟨hidentifiers, hdistinct, ⟨?_, ?_⟩, fun husable => husable.hygienic hconsistent⟩
  · intro husable field hfield hunusable
    have htaken := (variableName_taken_iff hconsistent (hnames field hfield).2).2 hunusable
    rcases List.mem_append.1 htaken with hmember | hreserved
    · exact husable.apart field hfield hmember
    · exact (husable.legal field hfield).2 hreserved
  · intro husable
    have hfree : ∀ field ∈ collection.controller.arguments,
        field.variableName ∉ memberNames collection.controller ++ reservedWords := by
      intro field hfield htaken
      exact husable field hfield
        ((variableName_taken_iff hconsistent (hnames field hfield).2).1 htaken)
    refine ⟨?_, hdistinct, ?_⟩
    · intro field hfield
      exact ⟨hidentifiers field hfield, fun hreserved =>
        hfree field hfield (List.mem_append_right _ hreserved)⟩
    · intro field hfield hmember
      exact hfree field hfield (List.mem_append_left _ hmember)

end Collected

/-! ### A field whose name hides a keyword -/

/-- Identifiers of ASCII characters. -/
def asciiIdentifiers : IdentifierChars where
  begins c := c.isAlpha || c == '_' || c == '$'
  continues c := c.isAlphanum || c == '_' || c == '$'
  begins_of_isAlpha h := by
    rw [h]
    rfl

/-- A class with one argument. -/
def countedDecl (name : String) : ClassDecl :=
  { name := "com.example.Counted", fields := [markedInt name [.publicAccess]] }

/-- The table of the class. -/
def countedTable (name : String) : ClassTable := ClassTable.empty.insertAll [countedDecl name]

theorem ofController_counted (name : String) :
    Level.ofController (countedTable name) {} (countedDecl name) true = [⟨countedDecl name, []⟩] :=
  Level.ofController_of_top _ _ _ _ rfl

/-- A field whose name ends in a keyword is collected like any other. -/
theorem collect_counted {name : String} (hname : name ∈ ["mCount", "mClass"]) :
    ∃ collection, collect (countedTable name) {} (countedDecl name) ⟨true, []⟩ = .ok collection ∧
      collection.diagnostics.entries = [] ∧
      collection.controller.arguments.map ArgField.name = [name] ∧
      collection.controller.codecs.values = [] := by
  have hview : ∀ name ∈ ["mCount", "mClass"],
      (scanLevels (countedTable name) {} ⟨ofClass (countedDecl name) true, ⟨true, []⟩⟩
        [⟨countedDecl name, []⟩]).toOption.any (fun scanned =>
          scanned.controller.arguments.all (fun field => !scanned.controller.needsSetter field) &&
            decide (scanned.diagnostics.entries = [] ∧
              scanned.controller.arguments.map ArgField.name = [name] ∧
              scanned.controller.codecs.values = []))
        = true := by
    decide +kernel
  obtain ⟨collection, hcollect, hfound⟩ := exists_collect_of_scan ⟨true, []⟩
    (ofController_counted name) _ (hview name hname)
  exact ⟨collection, hcollect, of_decide_eq_true hfound⟩

/-- The names of the field are legal. -/
theorem legal_counted {name : String} (hname : name ∈ ["mCount", "mClass"]) :
    HasLegalFields asciiIdentifiers (Level.ofController (countedTable name) {} (countedDecl name)
      (scanInherited {} (countedDecl name) ⟨true, []⟩).1) := by
  have hlevels : Level.ofController (countedTable name) {} (countedDecl name)
      (scanInherited {} (countedDecl name) ⟨true, []⟩).1 = [⟨countedDecl name, []⟩] :=
    ofController_counted name
  have hlegal : ∀ name ∈ ["mCount", "mClass"], IsLegalName asciiIdentifiers name := by
    decide +kernel
  rw [hlevels]
  intro level hlevel field hfield
  rw [List.mem_singleton.1 hlevel] at hfield
  rw [List.mem_singleton.1 hfield]
  exact hlegal name hname

/-- A field `mCount` makes a usable parameter `count`. -/
theorem hasUsableParameters_count :
    ∃ collection,
      collect (countedTable "mCount") {} (countedDecl "mCount") ⟨true, []⟩ = .ok collection ∧
      collection.controller.arguments.map ArgField.variableName = ["count"] ∧
      HasUsableParameters asciiIdentifiers collection.controller ∧
      Hygienic collection.controller := by
  obtain ⟨collection, hcollect, -, hnames, hcodecs⟩ := collect_counted List.mem_cons_self
  obtain ⟨-, -, husable, hhygienic⟩ := hasUsableParameters_iff hcollect
    (legal_counted List.mem_cons_self)
  have hparameters : HasUsableParameters asciiIdentifiers collection.controller := by
    apply husable.2
    intro field hfield
    have hname : field.name ∈ ["mCount"] := by
      rw [← hnames]
      exact List.mem_map_of_mem hfield
    have hconsistent := (tracks_of_collect hcollect).built.consistent
    rw [List.mem_singleton.1 hname, ← variableName_taken_iff hconsistent (by decide +kernel),
      memberNames, hcodecs]
    decide +kernel
  refine ⟨collection, hcollect, ?_, hparameters, hhygienic hparameters⟩
  have hvariables : collection.controller.arguments.map ArgField.variableName
      = (collection.controller.arguments.map ArgField.name).map unmarkedName := by
    rw [List.map_map]
    rfl
  rw [hvariables, hnames]
  decide +kernel

/-- A field `mClass` is collected without a complaint, and its parameter would be `class`. -/
theorem not_hasUsableParameters_class :
    ∃ collection,
      collect (countedTable "mClass") {} (countedDecl "mClass") ⟨true, []⟩ = .ok collection ∧
      collection.diagnostics.entries = [] ∧
      HasLegalFields asciiIdentifiers (Level.ofController (countedTable "mClass") {}
        (countedDecl "mClass") (scanInherited {} (countedDecl "mClass") ⟨true, []⟩).1) ∧
      (∃ field ∈ collection.controller.arguments, field.variableName = "class") ∧
      ¬ HasUsableParameters asciiIdentifiers collection.controller := by
  have hname : "mClass" ∈ ["mCount", "mClass"] := List.mem_cons_of_mem _ List.mem_cons_self
  obtain ⟨collection, hcollect, hsilent, hnames, -⟩ := collect_counted hname
  have hmem : "mClass" ∈ collection.controller.arguments.map ArgField.name := by
    rw [hnames]
    exact List.mem_cons_self
  obtain ⟨field, hfield, hclass⟩ := List.mem_map.1 hmem
  have hvariable : field.variableName = "class" := by
    rw [ArgField.variableName, hclass]
    decide +kernel
  refine ⟨collection, hcollect, hsilent, legal_counted hname, ⟨field, hfield, hvariable⟩, ?_⟩
  intro husable
  apply (husable.legal field hfield).2
  rw [hvariable]
  decide

end Java

end BundleBuilder
