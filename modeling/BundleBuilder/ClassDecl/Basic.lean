import BundleBuilder.ClassDecl.Annotation
import BundleBuilder.ClassDecl.Modifier
import BundleBuilder.JavaType.Basic

/-!
# Class declarations

One class or interface of a class model: its name, its place in the hierarchy and the members that
matter for generated code. The name is the qualified source name; a nested class spells out its
enclosing classes.
-/

set_option autoImplicit false

namespace BundleBuilder

/-- A type parameter with its upper bounds. -/
structure TypeParameter where
  name : String
  bounds : List JavaType := []
  deriving DecidableEq

/-- A parameter of a method or constructor. -/
structure Parameter where
  name : String := ""
  type : JavaType
  deriving DecidableEq

/-- A field of a class. -/
structure FieldDecl where
  name : String
  type : JavaType
  modifiers : List Modifier := []
  annotations : List Annotation := []
  deriving DecidableEq

/-- A method of a class. -/
structure MethodDecl where
  name : String
  modifiers : List Modifier := []
  parameters : List Parameter := []
  returnType : JavaType := .void
  deriving DecidableEq

/-- A constructor of a class. -/
structure ConstructorDecl where
  modifiers : List Modifier := []
  parameters : List Parameter := []
  deriving DecidableEq

/-- Whether a declaration is a class or an interface. -/
inductive ClassKind where
  | classKind
  | interfaceKind
  deriving DecidableEq, Repr

/-- A class or an interface. -/
structure ClassDecl where
  name : String
  package? : Option String := none
  kind : ClassKind := .classKind
  modifiers : List Modifier := []
  typeParameters : List TypeParameter := []
  superclass? : Option JavaType := none
  interfaces : List JavaType := []
  annotations : List Annotation := []
  constructors : List ConstructorDecl := []
  fields : List FieldDecl := []
  methods : List MethodDecl := []
  deriving DecidableEq

namespace FieldDecl

/-- The access level of a field. -/
def visibility (field : FieldDecl) : Visibility := .ofModifiers field.modifiers

/-- The annotation of a field with a given qualified name. -/
def marker? (field : FieldDecl) (qualified : String) : Option Annotation :=
  Annotation.find? field.annotations qualified

end FieldDecl

namespace MethodDecl

/-- The access level of a method. -/
def visibility (method : MethodDecl) : Visibility := .ofModifiers method.modifiers

end MethodDecl

namespace ClassDecl

/-- The access level of a class. -/
def visibility (decl : ClassDecl) : Visibility := .ofModifiers decl.modifiers

/-- Interfaces and classes with the modifier cannot be instantiated. -/
def isAbstract (decl : ClassDecl) : Bool :=
  decide (.abstract ∈ decl.modifiers) || decide (decl.kind = .interfaceKind)

/-- The annotation of a class with a given qualified name. -/
def marker? (decl : ClassDecl) (qualified : String) : Option Annotation :=
  Annotation.find? decl.annotations qualified

/-- The names of the type parameters. -/
def typeParameterNames (decl : ClassDecl) : List String := decl.typeParameters.map (·.name)

/-- Whether the class can be instantiated from everywhere without arguments. A class that declares
no constructor has an implicit one with the access level of the class. -/
def hasPublicNoArgConstructor (decl : ClassDecl) : Bool :=
  if decl.constructors.isEmpty then decide (decl.visibility = .publicAccess)
  else decl.constructors.any fun constructor =>
    constructor.parameters.isEmpty &&
      decide (Visibility.ofModifiers constructor.modifiers = .publicAccess)

/-- The declaration with every type in it replaced by its image. -/
def mapTypes (f : JavaType → JavaType) (decl : ClassDecl) : ClassDecl :=
  let onParameter := fun (parameter : Parameter) => { parameter with type := f parameter.type }
  { decl with
    superclass? := decl.superclass?.map f
    interfaces := decl.interfaces.map f
    typeParameters := decl.typeParameters.map fun parameter =>
      { parameter with bounds := parameter.bounds.map f }
    constructors := decl.constructors.map fun constructor =>
      { constructor with parameters := constructor.parameters.map onParameter }
    fields := decl.fields.map fun field => { field with type := f field.type }
    methods := decl.methods.map fun method =>
      { method with
        parameters := method.parameters.map onParameter
        returnType := f method.returnType } }

end ClassDecl

end BundleBuilder
