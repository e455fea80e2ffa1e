import BundleBuilder.Platform
import BundleBuilder.Text.CharClass
import BundleBuilder.Yaml.Decoder

/-!
# Options of a run

The options come from a configuration file and from settings of the form `key=value`, where a key
without a value means `true`. Settings are applied in their order, and settings with other keys are
passed over.
-/

set_option autoImplicit false

namespace BundleBuilder

open Yaml Yaml.Decoder

/-- Reads the names of a platform; each one that is not given has its default. -/
def Platform.decode : Decoder Platform := fun node => do
  let standard : Platform := {}
  let fields ← record
    ["arg-annotation", "fragment-with-args-annotation", "inherited-annotation",
      "fragment-base-types", "bundle-class", "parcelable-class", "serializable-class",
      "array-list-class", "sparse-array-class", "args-bundler-interface", "none-bundler-class",
      "injector-class", "sentinel-prefix", "platform-packages"] node
  let name := fun key default => fields.optional key default text
  let names := fun key default => fields.optional key default (list text)
  return {
    argMarker := ← name "arg-annotation" standard.argMarker
    controllerMarker := ← name "fragment-with-args-annotation" standard.controllerMarker
    inheritedMarker := ← name "inherited-annotation" standard.inheritedMarker
    controllerBases := ← names "fragment-base-types" standard.controllerBases
    bundleClass := ← name "bundle-class" standard.bundleClass
    parcelableClass := ← name "parcelable-class" standard.parcelableClass
    serializableClass := ← name "serializable-class" standard.serializableClass
    arrayListClass := ← name "array-list-class" standard.arrayListClass
    sparseArrayClass := ← name "sparse-array-class" standard.sparseArrayClass
    codecInterface := ← name "args-bundler-interface" standard.codecInterface
    noCodecClass := ← name "none-bundler-class" standard.noCodecClass
    injectorClass := ← name "injector-class" standard.injectorClass
    sentinelPrefix := ← name "sentinel-prefix" standard.sentinelPrefix
    platformPackages := ← names "platform-packages" standard.platformPackages }

/-- The options of a run. -/
structure Options where
  /-- Whether the dispatch class is left out, as a library does not know every controller. -/
  library : Bool := false
  /-- Whether warnings are kept. -/
  logWarnings : Bool := true
  /-- Whether generated methods say which references may be null. -/
  supportAnnotations : Bool := true
  /-- The package of the annotations that say so. -/
  supportPackage : String := "android.support.annotation"
  /-- The annotations of every builder. -/
  builderAnnotations : List String := []
  platform : Platform := {}
  deriving DecidableEq

namespace Options

/-- Reads options; each one that is not given has its default. -/
def decode : Decoder Options := fun node => do
  let standard : Options := {}
  let fields ← record
    ["library", "log-warnings", "support-annotations", "support-annotations-package",
      "builder-annotations", "platform"] node
  let flag := fun key default => fields.optional key default truthValue
  return {
    library := ← flag "library" standard.library
    logWarnings := ← flag "log-warnings" standard.logWarnings
    supportAnnotations := ← flag "support-annotations" standard.supportAnnotations
    supportPackage := ← fields.optional "support-annotations-package" standard.supportPackage text
    builderAnnotations := ←
      fields.optional "builder-annotations" standard.builderAnnotations (list text)
    platform := ← fields.optional "platform" standard.platform Platform.decode }

/-- Reads options from the text of a configuration file. -/
def read (contents : String) : Except ReadError Options := readText decode contents

/-! ## Settings -/

/-- A setting that does not have the form that its key asks for. -/
structure SettingError where
  key : String
  value : String
  deriving DecidableEq, Repr

/-- The wording of an error in a setting. -/
def SettingError.message (error : SettingError) : String :=
  "option " ++ error.key ++ " expects a boolean, got '" ++ error.value ++ "'"

/-- The key that switches the dispatch class off. -/
def libraryKey : String := "fragmentArgsLib"

/-- The key that switches warnings on and off. -/
def logWarningsKey : String := "fragmentArgsLogWarnings"

/-- The key that switches support annotations on and off. -/
def supportAnnotationsKey : String := "fragmentArgsSupportAnnotations"

/-- The key of the annotations of builders. -/
def builderAnnotationsKey : String := "fragmentArgsBuilderAnnotations"

/-- A text up to the first equals sign, and what follows it if there is one. -/
def splitSetting : List Char → List Char × Option (List Char)
  | [] => ([], none)
  | c :: rest =>
    if c = '=' then ([], some rest)
    else ((c :: (splitSetting rest).1), (splitSetting rest).2)

/-- The key and the value of a setting, without white space around them. -/
def keyAndValue (setting : String) : String × String :=
  match splitSetting setting.toList with
  | (key, some value) => (Text.trim (String.ofList key), Text.trim (String.ofList value))
  | (key, none) => (Text.trim (String.ofList key), "true")

/-- A text with its ASCII letters in lower case. -/
def lowerCase (text : String) : String := String.ofList (text.toList.map Char.toLower)

/-- The truth value of a setting. -/
def flagOf (key value : String) : Except SettingError Bool :=
  if ["true", "1", "yes"].contains (lowerCase value) then .ok true
  else if ["false", "0", "no"].contains (lowerCase value) then .ok false
  else .error ⟨key, value⟩

/-- The names in a list with commas between them. -/
def commaSeparated (value : String) : List String :=
  ((Text.split ',' value).map Text.trim).filter (· ≠ "")

/-- Applies a setting. -/
def apply (options : Options) (setting : String) : Except SettingError Options :=
  let (key, value) := keyAndValue setting
  if key = libraryKey then
    match flagOf key value with
    | .error error => .error error
    | .ok flag => .ok { options with library := flag }
  else if key = logWarningsKey then
    match flagOf key value with
    | .error error => .error error
    | .ok flag => .ok { options with logWarnings := flag }
  else if key = supportAnnotationsKey then
    match flagOf key value with
    | .error error => .error error
    | .ok flag => .ok { options with supportAnnotations := flag }
  else if key = builderAnnotationsKey then
    .ok { options with builderAnnotations := commaSeparated value }
  else .ok options

/-- Applies settings one after the other, up to the first one that is refused: the options that are
reached, and the error if there is one. -/
def applyUntilRefused (options : Options) : List String → Options × Option SettingError
  | [] => (options, none)
  | setting :: settings =>
    match options.apply setting with
    | .error error => (options, some error)
    | .ok next => next.applyUntilRefused settings

/-- Applies settings one after the other. -/
def applyAll (options : Options) (settings : List String) : Except SettingError Options :=
  match options.applyUntilRefused settings with
  | (options, none) => .ok options
  | (_, some error) => .error error

end Options

end BundleBuilder
