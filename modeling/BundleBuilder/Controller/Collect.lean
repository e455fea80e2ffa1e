import BundleBuilder.Controller.Ancestry
import BundleBuilder.Controller.Codec
import BundleBuilder.Controller.Setter
import BundleBuilder.Diagnostics

/-!
# Collecting the arguments of a controller

The levels of a controller are scanned from the class upwards. A marked field that is misplaced or
clashes with a field found before is reported and passed over. A field that cannot be stored, an
invalid codec and a missing setter end the collection; the diagnostics up to that point are kept.
-/

set_option autoImplicit false

namespace BundleBuilder.Controller

/-- An error that ended a collection, with the diagnostics up to it. -/
structure Failure where
  error : ProcessingError
  diagnostics : Diagnostics

/-- A controller whose arguments are being collected, with the diagnostics so far. -/
structure Collection where
  controller : Controller
  diagnostics : Diagnostics

namespace Collection

/-- Reports an error that does not end the collection. -/
def report (collection : Collection) (error : ProcessingError) : Collection :=
  { collection with diagnostics := collection.diagnostics.report error }

end Collection

/-- Whether the superclasses of a controller are scanned, and the diagnostics with a warning if a
deprecated marker decides. A class without a marker is scanned with its superclasses. -/
def scanInherited (platform : Platform) (decl : ClassDecl) (diagnostics : Diagnostics) :
    Bool × Diagnostics :=
  match decl.marker? platform.controllerMarker with
  | some marker => ((marker.bool? "inherited").getD true, diagnostics)
  | none =>
    match decl.marker? platform.inheritedMarker with
    | some marker =>
      ((marker.bool? "value").getD true,
        diagnostics.warning
          ("@FragmentArgsInherited is deprecated. Use @FragmentWithArgs(inherited = ...) on " ++
            decl.simpleName ++ " instead")
          (some decl.name))
    | none => (true, diagnostics)

/-! ## Fields -/

/-- The error of a marked field whose type a bundle cannot hold. -/
def unsupported (level : Level) (decl : FieldDecl) : ProcessingError :=
  .unsupportedType ⟨decl.name, level.decl.name⟩ level.decl.simpleName
    (decl.type.substitute level.bindings).text

/-- How an argument is stored: by its codec, or according to its type. -/
def storageOf (table : ClassTable) (platform : Platform) (bounds : TypeBounds) (level : Level)
    (decl : FieldDecl) (codec? : Option String) : Except ProcessingError (Option Storage) :=
  match codec? with
  | some _ => .ok none
  | none =>
    match Storage.ofType? table platform bounds (decl.type.substitute level.bindings) with
    | some storage => .ok (some storage)
    | none => .error (unsupported level decl)

/-- The key of an argument: the one that its marker names, or its variable name. -/
def keyOf (decl : FieldDecl) (marker : Annotation) : String :=
  match marker.text? "key" with
  | none | some "" => unmarkedName decl.name
  | some key => key

/-- The argument that a marked field declares, with its codec or its storage. -/
def argumentFrom (level : Level) (decl : FieldDecl) (marker : Annotation) (codec? : Option String)
    (storage? : Option Storage) : ArgField where
  name := decl.name
  className := level.decl.name
  classPackage := level.decl.package
  type := decl.type.substitute level.bindings
  visibility := decl.visibility
  key := keyOf decl marker
  required := (marker.bool? "required").getD true
  codec? := codec?
  storage? := storage?

/-- The argument that a marked field of a level declares. -/
def argumentOf (table : ClassTable) (platform : Platform) (bounds : TypeBounds) (level : Level)
    (decl : FieldDecl) (marker : Annotation) : Except ProcessingError ArgField :=
  let site : FieldSite := ⟨decl.name, level.decl.name⟩
  match Codec.ofMarker table platform marker level.decl.package site.element with
  | .error error => .error error
  | .ok codec? =>
    match storageOf table platform bounds level decl codec? with
    | .error error => .error error
    | .ok storage? => .ok (argumentFrom level decl marker codec? storage?)

/-- The error of a marked field that belongs to the class or cannot be assigned. -/
def misplaced (level : Level) (decl : FieldDecl) : ProcessingError :=
  .structural (FieldSite.element ⟨decl.name, level.decl.name⟩)
    ("@Arg fields must not be static or final (" ++ level.decl.simpleName ++ "." ++ decl.name ++
      ")")

/-- Warns of an argument that is stored only as some serializable object. -/
def Collection.warnSerializable (collection : Collection) (field : ArgField) : Collection :=
  if field.storage? = some .serializable then
    { collection with
      diagnostics := collection.diagnostics.warning
        (field.simpleClassName ++ "." ++ field.name ++ " will be stored as Serializable")
        (some field.element) }
  else collection

/-- Offers an argument to the controller, and reports that it clashes with another one if it is refused. -/
def Collection.enter (collection : Collection) (field : ArgField) : Collection :=
  match collection.controller.offer field field.required with
  | (controller, none) => { collection with controller }
  | (controller, some error) => Collection.report { collection with controller } error

/-- Records an argument. -/
def Collection.record (collection : Collection) (field : ArgField) : Collection :=
  (collection.warnSerializable field).enter field

/-- Scans a field of a level. -/
def scanField (table : ClassTable) (platform : Platform) (level : Level) (collection : Collection)
    (decl : FieldDecl) : Except Failure Collection :=
  match decl.marker? platform.argMarker with
  | none => .ok collection
  | some marker =>
    -- A misplaced field is passed over before its codec and its type are looked at.
    if .static ∈ decl.modifiers ∨ .final ∈ decl.modifiers then
      .ok (collection.report (misplaced level decl))
    else
      match argumentOf table platform collection.controller.typeBounds level decl marker with
      | .error error => .error ⟨error, collection.diagnostics⟩
      | .ok field => .ok (collection.record field)

/-- Scans fields of a level one after the other. -/
def scanFields (table : ClassTable) (platform : Platform) (level : Level)
    (collection : Collection) : List FieldDecl → Except Failure Collection
  | [] => .ok collection
  | decl :: decls =>
    match scanField table platform level collection decl with
    | .error failure => .error failure
    | .ok collection => scanFields table platform level collection decls

/-! ## Methods -/

/-- The setter that a method of a level may be, by its name. -/
def candidateOf? (level : Level) (decl : MethodDecl) : Option SetterCandidate :=
  if Text.hasPrefix "set" decl.name && decide (.static ∉ decl.modifiers) then
    some
      { name := decl.name
        className := level.decl.name
        classPackage := level.decl.package
        visibility := decl.visibility
        parameters := decl.parameters.map fun parameter =>
          parameter.type.substitute level.bindings }
  else none

/-- Remembers the setters of a level. -/
def scanSetters (controller : Controller) (level : Level) : Controller :=
  (level.decl.methods.filterMap (candidateOf? level)).foldl registerSetter controller

/-! ## Levels -/

/-- Scans levels one after the other. -/
def scanLevels (table : ClassTable) (platform : Platform) (collection : Collection) :
    List Level → Except Failure Collection
  | [] => .ok collection
  | level :: levels =>
    match scanFields table platform level collection level.decl.fields with
    | .error failure => .error failure
    | .ok collection =>
      scanLevels table platform
        { collection with controller := collection.controller.scanSetters level } levels

/-- Ends a collection: the arguments that need a setter get it. -/
def Collection.finish (collection : Collection) : Except Failure Collection :=
  match collection.controller.resolveSetters with
  | .error error => .error ⟨error, collection.diagnostics⟩
  | .ok controller => .ok { collection with controller }

/-- Collects the arguments of a controller class. -/
def collect (table : ClassTable) (platform : Platform) (decl : ClassDecl)
    (diagnostics : Diagnostics) : Except Failure Collection :=
  let start := scanInherited platform decl diagnostics
  match scanLevels table platform ⟨ofClass decl start.1, start.2⟩
      (Level.ofController table platform decl start.1) with
  | .error failure => .error failure
  | .ok collection => collection.finish

end BundleBuilder.Controller
