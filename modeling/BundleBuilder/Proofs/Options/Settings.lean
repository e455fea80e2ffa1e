import BundleBuilder.Options

/-!
# What settings do to the options of a run

A setting has a key and a value (`keyAndValue_assign`, `keyAndValue_bare`). Each of four keys governs
one field of the options (`Governs`), and a setting with any other key changes nothing. So after any
list of settings a field has the value that the last setting with its key gives to it, and settings
with different keys may be exchanged (`last_setting_wins`). Settings are applied up to the first one
that is refused, and what went before it stays in place.
-/

set_option autoImplicit false

namespace BundleBuilder.Options

/-! ## Keys and values -/

theorem splitSetting_of_not_mem {text : List Char} (h : '=' ∉ text) :
    splitSetting text = (text, none) := by
  induction text with
  | nil => rfl
  | cons c text ih =>
    rw [List.mem_cons, not_or] at h
    obtain ⟨hc, htext⟩ := h
    rw [splitSetting, if_neg (Ne.symm hc), ih htext]

theorem splitSetting_append {key : List Char} (h : '=' ∉ key) (value : List Char) :
    splitSetting (key ++ '=' :: value) = (key, some value) := by
  induction key with
  | nil => rfl
  | cons c key ih =>
    rw [List.mem_cons, not_or] at h
    obtain ⟨hc, hkey⟩ := h
    rw [List.cons_append, splitSetting, if_neg (Ne.symm hc), ih hkey]

/-- The first equals sign ends the key, and what follows it is the value. -/
theorem keyAndValue_assign {key : String} (h : '=' ∉ key.toList) (value : String) :
    keyAndValue (key ++ "=" ++ value) = (Text.trim key, Text.trim value) := by
  have hchars : (key ++ "=" ++ value).toList = key.toList ++ '=' :: value.toList := by
    simp
  rw [keyAndValue, hchars, splitSetting_append h]
  simp only [String.ofList_toList]

/-- A setting without an equals sign is a key whose value is `true`. -/
theorem keyAndValue_bare {setting : String} (h : '=' ∉ setting.toList) :
    keyAndValue setting = (Text.trim setting, "true") := by
  rw [keyAndValue, splitSetting_of_not_mem h]
  simp only [String.ofList_toList]

/-- The key of a setting. -/
def keyOf (setting : String) : String := (keyAndValue setting).1

/-- The value that a setting gives to its key. -/
def valueOf (setting : String) : String := (keyAndValue setting).2

/-- The settings with a key, in their order. -/
def settingsOf (key : String) (settings : List String) : List String :=
  settings.filter fun setting => keyOf setting = key

/-- The value that the last setting with a key gives to it. -/
def lastValue? (key : String) (settings : List String) : Option String :=
  (settingsOf key settings).getLast?.map valueOf

/-- A setting in front only counts if no later one has its key. -/
theorem lastValue?_cons (key setting : String) (settings : List String) :
    lastValue? key (setting :: settings) =
      (lastValue? key settings).or (if keyOf setting = key then some (valueOf setting) else none) := by
  rw [lastValue?, lastValue?, settingsOf, settingsOf, List.filter_cons]
  by_cases hkey : keyOf setting = key
  · rw [if_pos (decide_eq_true hkey), if_pos hkey, List.getLast?_cons]
    cases (settings.filter fun setting => keyOf setting = key).getLast? <;> rfl
  · rw [if_neg (by simpa using hkey), if_neg hkey, Option.or_none]

/-! ## One setting -/

/-- The options that are switched on and off. -/
inductive Switch where
  | library
  | logWarnings
  | supportAnnotations
  deriving DecidableEq

namespace Switch

/-- The key of a switch. -/
def key : Switch → String
  | library => libraryKey
  | logWarnings => logWarningsKey
  | supportAnnotations => supportAnnotationsKey

/-- Whether a switch is on. -/
def get (options : Options) : Switch → Bool
  | library => options.library
  | logWarnings => options.logWarnings
  | supportAnnotations => options.supportAnnotations

/-- The options with a switch turned on or off. -/
def set (options : Options) (flag : Bool) : Switch → Options
  | library => { options with library := flag }
  | logWarnings => { options with logWarnings := flag }
  | supportAnnotations => { options with supportAnnotations := flag }

theorem key_inj {first second : Switch} (h : first.key = second.key) : first = second := by
  revert h
  cases first <;> cases second <;> decide

theorem key_ne_builderAnnotationsKey (switch : Switch) : switch.key ≠ builderAnnotationsKey := by
  cases switch <;> decide

theorem get_set (options : Options) (flag : Bool) (changed switch : Switch) :
    switch.get (changed.set options flag) = if changed = switch then flag else switch.get options := by
  cases changed <;> cases switch <;> rfl

theorem get_annotated (options : Options) (annotations : List String) (switch : Switch) :
    switch.get { options with builderAnnotations := annotations } = switch.get options := by
  cases switch <;> rfl

theorem builderAnnotations_set (options : Options) (flag : Bool) (switch : Switch) :
    (switch.set options flag).builderAnnotations = options.builderAnnotations := by
  cases switch <;> rfl

end Switch

/-- A setting is refused with an error: its key is one of a switch, and its value is no truth value. -/
def RefusedWith (setting : String) (error : SettingError) : Prop :=
  ∃ switch : Switch, keyOf setting = switch.key ∧
    flagOf switch.key (valueOf setting) = .error error

/-- A setting is refused. -/
def IsRefused (setting : String) : Prop := ∃ error, RefusedWith setting error

variable {options next result : Options} {setting : String} {settings : List String}

/-- What a setting makes of the options when it is applied. -/
inductive Applies (options : Options) (setting : String) : Options → Prop where
  | turn (switch : Switch) {flag : Bool} : keyOf setting = switch.key →
      flagOf switch.key (valueOf setting) = .ok flag →
      Applies options setting (switch.set options flag)
  | annotate : keyOf setting = builderAnnotationsKey →
      Applies options setting
        { options with builderAnnotations := commaSeparated (valueOf setting) }
  | pass : (∀ switch : Switch, keyOf setting ≠ switch.key) →
      keyOf setting ≠ builderAnnotationsKey → Applies options setting options

/-- Every setting is applied or refused. -/
theorem apply_cases (options : Options) (setting : String) :
    (∃ next, options.apply setting = .ok next ∧ Applies options setting next) ∨
      ∃ error, options.apply setting = .error error ∧ RefusedWith setting error := by
  obtain ⟨key, value, hpair⟩ : ∃ key value, keyAndValue setting = (key, value) := ⟨_, _, rfl⟩
  have hkey : keyOf setting = key := congrArg Prod.fst hpair
  obtain rfl : valueOf setting = value := congrArg Prod.snd hpair
  rw [apply, hpair]
  dsimp only
  split
  · next hlibrary =>
    subst hlibrary
    cases hflag : flagOf libraryKey (valueOf setting) with
    | error error => exact .inr ⟨error, rfl, .library, hkey, hflag⟩
    | ok flag => exact .inl ⟨_, rfl, .turn .library hkey hflag⟩
  · next hlibrary =>
    split
    · next hwarnings =>
      subst hwarnings
      cases hflag : flagOf logWarningsKey (valueOf setting) with
      | error error => exact .inr ⟨error, rfl, .logWarnings, hkey, hflag⟩
      | ok flag => exact .inl ⟨_, rfl, .turn .logWarnings hkey hflag⟩
    · next hwarnings =>
      split
      · next hsupport =>
        subst hsupport
        cases hflag : flagOf supportAnnotationsKey (valueOf setting) with
        | error error => exact .inr ⟨error, rfl, .supportAnnotations, hkey, hflag⟩
        | ok flag => exact .inl ⟨_, rfl, .turn .supportAnnotations hkey hflag⟩
      · next hsupport =>
        split
        · next hannotations => exact .inl ⟨_, rfl, .annotate (hkey.trans hannotations)⟩
        · next hannotations =>
          refine .inl ⟨_, rfl, .pass ?_ (hkey ▸ hannotations)⟩
          intro switch
          rw [hkey]
          cases switch with
          | library => exact hlibrary
          | logWarnings => exact hwarnings
          | supportAnnotations => exact hsupport

/-- A key governs a field: a setting with the key puts the value that it gives into the field, and a
setting with another key leaves the field alone. -/
def Governs {α : Type} (key : String) (read : String → Except SettingError α)
    (field : Options → α) : Prop :=
  ∀ {options next : Options} {setting : String}, Applies options setting next →
    if keyOf setting = key then read (valueOf setting) = .ok (field next)
    else field next = field options

theorem governs_switch (switch : Switch) :
    Governs switch.key (flagOf switch.key) fun options => switch.get options := by
  intro options next setting h
  dsimp only
  cases h with
  | @turn changed flag hkey hflag =>
    rw [hkey, Switch.get_set]
    by_cases hsame : changed = switch
    · subst hsame
      rwa [if_pos rfl, if_pos rfl]
    · rw [if_neg fun heq => hsame (Switch.key_inj heq), if_neg hsame]
  | annotate hkey =>
    rw [hkey, if_neg switch.key_ne_builderAnnotationsKey.symm, Switch.get_annotated]
  | pass hother => rw [if_neg (hother switch)]

/-- The names in a comma separated value, which is never refused. -/
def readAnnotations (value : String) : Except SettingError (List String) :=
  .ok (commaSeparated value)

theorem governs_builderAnnotations :
    Governs builderAnnotationsKey readAnnotations builderAnnotations := by
  intro options next setting h
  cases h with
  | turn switch hkey =>
    rw [hkey, if_neg switch.key_ne_builderAnnotationsKey, Switch.builderAnnotations_set]
  | annotate hkey => rw [if_pos hkey, readAnnotations]
  | pass _ hother => rw [if_neg hother]

/-- No setting changes the package of support annotations or the platform. -/
theorem Applies.unchanged (h : Applies options setting next) :
    next.supportPackage = options.supportPackage ∧ next.platform = options.platform := by
  cases h with
  | turn switch => cases switch <;> exact ⟨rfl, rfl⟩
  | annotate | pass => exact ⟨rfl, rfl⟩

/-- A setting that is applied is not refused. -/
theorem Applies.not_isRefused (h : Applies options setting next) : ¬ IsRefused setting := by
  rintro ⟨error, switch, hkey, herror⟩
  cases h with
  | turn applied happlied hflag =>
    obtain rfl : applied = switch := Switch.key_inj (happlied.symm.trans hkey)
    rw [hflag] at herror
    cases herror
  | annotate hannotations => exact switch.key_ne_builderAnnotationsKey (hkey.symm.trans hannotations)
  | pass hother => exact hother switch hkey

/-! ## All settings -/

/-- A run over settings either applies the first one and goes on, or stops there. -/
theorem run_cases (options : Options) (setting : String) :
    (∃ next, Applies options setting next ∧ ∀ settings,
        options.applyUntilRefused (setting :: settings) = next.applyUntilRefused settings) ∨
      ∃ error, RefusedWith setting error ∧ ∀ settings,
        options.applyUntilRefused (setting :: settings) = (options, some error) := by
  rcases apply_cases options setting with ⟨next, hnext, happlies⟩ | ⟨error, herror, hrefused⟩
  · refine .inl ⟨next, happlies, fun settings => ?_⟩
    rw [applyUntilRefused, hnext]
  · refine .inr ⟨error, hrefused, fun settings => ?_⟩
    rw [applyUntilRefused, herror]

/-- All settings of a list are applied one after the other. -/
inductive AppliesAll : Options → List String → Options → Prop where
  | nil (options : Options) : AppliesAll options [] options
  | cons {options next result : Options} {setting : String} {settings : List String} :
      Applies options setting next → AppliesAll next settings result →
      AppliesAll options (setting :: settings) result

theorem AppliesAll.of_run (hrun : options.applyUntilRefused settings = (result, none)) :
    AppliesAll options settings result := by
  induction settings generalizing options with
  | nil =>
    rw [← (Prod.mk.inj hrun).1]
    exact .nil options
  | cons setting settings ih =>
    rcases run_cases options setting with ⟨next, happlies, hnext⟩ | ⟨error, -, hstop⟩
    · rw [hnext] at hrun
      exact .cons happlies (ih hrun)
    · rw [hstop] at hrun
      cases (Prod.mk.inj hrun).2

/-- A field has the value that was read from the last setting with its key, if there is one, and is
unchanged otherwise. -/
def Settles {α : Type} (read : String → Except SettingError α) (initial final : α) :
    Option String → Prop
  | none => final = initial
  | some value => read value = .ok final

theorem Governs.settles {α : Type} {key : String} {read : String → Except SettingError α}
    {field : Options → α} (h : Governs key read field) (hall : AppliesAll options settings result) :
    Settles read (field options) (field result) (lastValue? key settings) := by
  induction hall with
  | nil options => exact rfl
  | @cons options next result setting settings happlies _ ih =>
    have hfirst := h happlies
    rw [lastValue?_cons]
    cases hlast : lastValue? key settings with
    | some value =>
      rw [hlast] at ih
      exact ih
    | none =>
      rw [hlast] at ih
      have hkept : field result = field next := ih
      rw [← hkept] at hfirst
      rw [Option.none_or]
      split at hfirst
      · next hkey =>
        rw [if_pos hkey]
        exact hfirst
      · next hkey =>
        rw [if_neg hkey]
        exact hfirst

/-- The last value for a key decides what a field is settled to. -/
theorem Settles.unique {α : Type} {read : String → Except SettingError α} {initial first second : α}
    {value? : Option String} (hfirst : Settles read initial first value?)
    (hsecond : Settles read initial second value?) : first = second := by
  cases value? with
  | none => exact hfirst.trans hsecond.symm
  | some value => exact Except.ok.inj (hfirst.symm.trans hsecond)

theorem AppliesAll.unchanged (hall : AppliesAll options settings result) :
    result.supportPackage = options.supportPackage ∧ result.platform = options.platform := by
  induction hall with
  | nil options => exact ⟨rfl, rfl⟩
  | cons happlies _ ih =>
    obtain ⟨hpackage, hplatform⟩ := happlies.unchanged
    exact ⟨ih.1.trans hpackage, ih.2.trans hplatform⟩

/-- Settings are applied in another order with the same result, if the settings with the same key stay
in their order. -/
theorem AppliesAll.unique {others : List String} {other : Options}
    (hall : AppliesAll options settings result) (hothers : AppliesAll options others other)
    (hsame : ∀ key, settingsOf key others = settingsOf key settings) : other = result := by
  have hlast (key : String) : lastValue? key others = lastValue? key settings := by
    rw [lastValue?, lastValue?, hsame key]
  have hfield {α : Type} {key : String} {read : String → Except SettingError α}
      {field : Options → α} (h : Governs key read field) : field other = field result :=
    (h.settles hothers).unique (hlast key ▸ h.settles hall)
  have hlibrary := hfield (governs_switch .library)
  have hwarnings := hfield (governs_switch .logWarnings)
  have hsupport := hfield (governs_switch .supportAnnotations)
  have hannotations := hfield governs_builderAnnotations
  have hpackage := hothers.unchanged.1.trans hall.unchanged.1.symm
  have hplatform := hothers.unchanged.2.trans hall.unchanged.2.symm
  cases other
  cases result
  simp only [mk.injEq]
  exact ⟨hlibrary, hwarnings, hsupport, hpackage, hannotations, hplatform⟩

/-! ## Refusals -/

/-- All settings of a list are applied exactly if none is refused. -/
theorem exists_run_iff (options : Options) (settings : List String) :
    (∃ result, options.applyUntilRefused settings = (result, none)) ↔
      ∀ setting ∈ settings, ¬ IsRefused setting := by
  induction settings generalizing options with
  | nil => exact iff_of_true ⟨options, rfl⟩ (List.forall_mem_nil _)
  | cons setting settings ih =>
    rw [List.forall_mem_cons]
    rcases run_cases options setting with ⟨next, happlies, hnext⟩ | ⟨error, hrefused, hstop⟩
    · rw [hnext, ih next]
      exact (and_iff_right happlies.not_isRefused).symm
    · rw [hstop]
      refine iff_of_false ?_ fun hnone => hnone.1 ⟨error, hrefused⟩
      rintro ⟨result, hresult⟩
      cases (Prod.mk.inj hresult).2

/-- A run with an error ends at the first setting that is refused, with what the settings before it
have made of the options. -/
theorem refused_of_run {error : SettingError}
    (hrun : options.applyUntilRefused settings = (result, some error)) :
    ∃ before setting after, settings = before ++ setting :: after ∧
      (∀ earlier ∈ before, ¬ IsRefused earlier) ∧ RefusedWith setting error ∧
      options.applyUntilRefused before = (result, none) := by
  induction settings generalizing options with
  | nil => cases (Prod.mk.inj hrun).2
  | cons first settings ih =>
    rcases run_cases options first with ⟨next, happlies, hnext⟩ | ⟨found, hrefused, hstop⟩
    · rw [hnext] at hrun
      obtain ⟨before, setting, after, rfl, hbefore, hrefused, hreached⟩ := ih hrun
      refine ⟨first :: before, setting, after, rfl, ?_, hrefused, ?_⟩
      · exact List.forall_mem_cons.2 ⟨happlies.not_isRefused, hbefore⟩
      · rw [hnext, hreached]
    · rw [hstop] at hrun
      obtain ⟨rfl, herror⟩ := Prod.mk.inj hrun
      rw [← Option.some.inj herror]
      exact ⟨[], first, settings, rfl, List.forall_mem_nil _, hrefused, rfl⟩

/-! ## The last setting wins -/

/-- The key of a setting is what stands before its first equals sign, or the whole setting, which then
says `true`. Settings are all applied if none is refused. Each of the four fields then has the value
that the last setting with its key gives to it, or is unchanged if there is none; everything else is
unchanged, and any order in which the settings with the same key stay in their order leads to the same
options. Otherwise the settings before the first one that is refused have been applied, and no
others. -/
theorem last_setting_wins (options : Options) (settings : List String) :
    ((∀ key value : String, '=' ∉ key.toList →
        keyAndValue (key ++ "=" ++ value) = (Text.trim key, Text.trim value)) ∧
      ∀ setting : String, '=' ∉ setting.toList →
        keyAndValue setting = (Text.trim setting, "true")) ∧
    ((∃ result, options.applyUntilRefused settings = (result, none)) ↔
      ∀ setting ∈ settings, ¬ IsRefused setting) ∧
    (∀ result, options.applyUntilRefused settings = (result, none) →
      (Settles (flagOf libraryKey) options.library result.library
          (lastValue? libraryKey settings) ∧
        Settles (flagOf logWarningsKey) options.logWarnings result.logWarnings
          (lastValue? logWarningsKey settings) ∧
        Settles (flagOf supportAnnotationsKey) options.supportAnnotations result.supportAnnotations
          (lastValue? supportAnnotationsKey settings) ∧
        Settles readAnnotations options.builderAnnotations result.builderAnnotations
          (lastValue? builderAnnotationsKey settings)) ∧
      (result.supportPackage = options.supportPackage ∧ result.platform = options.platform) ∧
      ∀ others, (∀ key, settingsOf key others = settingsOf key settings) →
        options.applyUntilRefused others = (result, none)) ∧
    ∀ result error, options.applyUntilRefused settings = (result, some error) →
      ∃ before setting after, settings = before ++ setting :: after ∧
        (∀ earlier ∈ before, ¬ IsRefused earlier) ∧ RefusedWith setting error ∧
        options.applyUntilRefused before = (result, none) := by
  refine ⟨⟨fun _ value hkey => keyAndValue_assign hkey value, fun _ => keyAndValue_bare⟩,
    exists_run_iff options settings, fun result hrun => ?_, fun _ _ => refused_of_run⟩
  have hall := AppliesAll.of_run hrun
  have hswitch (switch : Switch) := Governs.settles (governs_switch switch) hall
  refine ⟨⟨hswitch .library, hswitch .logWarnings, hswitch .supportAnnotations,
    governs_builderAnnotations.settles hall⟩,
    hall.unchanged, fun others hsame => ?_⟩
  -- The other list has the same settings, so none of them is refused either.
  have hnone : ∀ setting ∈ others, ¬ IsRefused setting := by
    intro setting hmem
    have hown : setting ∈ settingsOf (keyOf setting) others :=
      List.mem_filter.2 ⟨hmem, decide_eq_true rfl⟩
    rw [hsame] at hown
    exact (exists_run_iff options settings).1 ⟨result, hrun⟩ setting (List.mem_filter.1 hown).1
  obtain ⟨other, hother⟩ := (exists_run_iff options others).2 hnone
  rw [hother, hall.unique (.of_run hother) hsame]

/-! ### Settings that override each other -/

/-- The dispatch class is switched off and on again, and annotations are listed in between. -/
def overridingSettings : List String :=
  ["fragmentArgsLib", "fragmentArgsBuilderAnnotations=Keep, ,Made", " fragmentArgsLib = NO "]

/-- The same settings with the list of annotations in front. -/
def reorderedSettings : List String :=
  ["fragmentArgsBuilderAnnotations=Keep, ,Made", "fragmentArgsLib", " fragmentArgsLib = NO "]

/-- Only the annotations remain, in either order of the settings; a value that is no truth value stops
a run before the settings behind it. -/
theorem last_setting_wins_overriding :
    let result : Options := { builderAnnotations := ["Keep", "Made"] }
    ('=' ∉ " fragmentArgsLib ".toList ∧
      keyAndValue " fragmentArgsLib = NO " = ("fragmentArgsLib", "NO")) ∧
    applyUntilRefused {} overridingSettings = (result, none) ∧
    (∀ key, settingsOf key reorderedSettings = settingsOf key overridingSettings) ∧
    applyUntilRefused {} reorderedSettings = (result, none) ∧
    applyUntilRefused {} ["fragmentArgsLib", "fragmentArgsLib=2", "fragmentArgsLib=no"] =
      ({ library := true }, some ⟨"fragmentArgsLib", "2"⟩) ∧
    ∃ before setting after,
      ["fragmentArgsLib", "fragmentArgsLib=2", "fragmentArgsLib=no"] = before ++ setting :: after ∧
        RefusedWith setting ⟨"fragmentArgsLib", "2"⟩ := by
  intro result
  have hchars : '=' ∉ " fragmentArgsLib ".toList := by decide
  have hrun : applyUntilRefused {} overridingSettings = (result, none) := by decide +kernel
  have hrefused : applyUntilRefused {} ["fragmentArgsLib", "fragmentArgsLib=2",
      "fragmentArgsLib=no"] = ({ library := true }, some ⟨"fragmentArgsLib", "2"⟩) := by
    decide +kernel
  have hsame : ∀ key, settingsOf key reorderedSettings = settingsOf key overridingSettings := by
    intro key
    have hlibrary : keyOf "fragmentArgsLib" = libraryKey := by decide +kernel
    by_cases hkey : key = libraryKey
    · rw [hkey]
      decide +kernel
    · simp only [settingsOf, reorderedSettings, overridingSettings, List.filter_cons, hlibrary,
        Ne.symm hkey, decide_false, Bool.false_eq_true, if_false]
  have hkey := (last_setting_wins {} []).1.1 " fragmentArgsLib " " NO " hchars
  have hreordered := ((last_setting_wins {} overridingSettings).2.2.1 result hrun).2.2
    reorderedSettings hsame
  obtain ⟨before, setting, after, hsettings, -, hfirst, -⟩ :=
    (last_setting_wins {} _).2.2.2 _ _ hrefused
  exact ⟨⟨hchars, hkey.trans (by decide +kernel)⟩, hrun, hsame, hreordered, hrefused, before,
    setting, after, hsettings, hfirst⟩

end BundleBuilder.Options
