import BundleBuilder.ClassDecl.Naming
import BundleBuilder.ModelFile
import BundleBuilder.Proofs.JavaType.Printing

/-!
# The types in a class declaration

A declaration mentions types in many places: the superclass, the interfaces, the bounds of type
parameters, the parameters of constructors and methods, the results of methods and the fields. Mapping
the types of a declaration reaches all of them and nothing else, so two maps that agree on these types
give the same declaration (`mapTypes_congr`). What is left without the types is the outline of the
declaration. All types of a declaration that was read from a document
can be printed (`isPrintable_of_read`), because each of them was read from a text, and the only type
that a document may leave out is `void`.
-/

set_option autoImplicit false

namespace BundleBuilder

namespace ClassDecl

/-- All types that a declaration mentions. -/
def types (decl : ClassDecl) : List JavaType :=
  decl.superclass?.toList ++ decl.interfaces ++ decl.typeParameters.flatMap TypeParameter.bounds ++
    (decl.constructors.flatMap fun constructor => constructor.parameters.map Parameter.type) ++
      decl.fields.map FieldDecl.type ++
        decl.methods.flatMap fun method =>
          method.returnType :: method.parameters.map Parameter.type

/-- The places at which a declaration may mention a type. -/
theorem mem_types_iff {decl : ClassDecl} {type : JavaType} :
    type ∈ decl.types ↔ decl.superclass? = some type ∨ type ∈ decl.interfaces ∨
      (∃ parameter ∈ decl.typeParameters, type ∈ parameter.bounds) ∨
      (∃ constructor ∈ decl.constructors, ∃ parameter ∈ constructor.parameters,
        parameter.type = type) ∨
      (∃ field ∈ decl.fields, field.type = type) ∨
      ∃ method ∈ decl.methods, method.returnType = type ∨
        ∃ parameter ∈ method.parameters, parameter.type = type := by
  simp only [types, List.mem_append, Option.mem_toList, List.mem_flatMap, List.mem_map,
    List.mem_cons, or_assoc, eq_comm (a := type)]

/-! ## Mapping the types -/

section Mapping

variable {f g : JavaType → JavaType} (decl : ClassDecl)

/-- It matters only what a map does to the types that are mentioned. -/
theorem mapTypes_congr (h : ∀ type ∈ decl.types, f type = g type) :
    decl.mapTypes f = decl.mapTypes g := by
  have hmention : ∀ {type : JavaType}, _ → f type = g type :=
    fun {type} hmem => h type (mem_types_iff.2 hmem)
  have hparameters : ∀ parameters : List Parameter,
      (∀ parameter ∈ parameters, f parameter.type = g parameter.type) →
      (parameters.map fun parameter => { parameter with type := f parameter.type })
        = parameters.map fun parameter => { parameter with type := g parameter.type } := by
    intro parameters hsame
    refine List.map_congr_left fun parameter hparameter => ?_
    rw [hsame parameter hparameter]
  simp only [mapTypes, mk.injEq, true_and]
  refine ⟨?_, ?_, ?_, ?_, ?_, ?_⟩
  · refine List.map_congr_left fun parameter hparameter => ?_
    rw [List.map_congr_left fun bound hbound =>
      hmention (.inr (.inr (.inl ⟨parameter, hparameter, hbound⟩)))]
  · exact Option.map_congr fun type htype => hmention (.inl htype)
  · exact List.map_congr_left fun type htype => hmention (.inr (.inl htype))
  · refine List.map_congr_left fun constructor hconstructor => ?_
    rw [hparameters]
    intro parameter hparameter
    exact hmention (.inr (.inr (.inr (.inl ⟨constructor, hconstructor, parameter, hparameter, rfl⟩))))
  · refine List.map_congr_left fun field hfield => ?_
    rw [hmention (.inr (.inr (.inr (.inr (.inl ⟨field, hfield, rfl⟩)))))]
  · refine List.map_congr_left fun method hmethod => ?_
    rw [hmention (.inr (.inr (.inr (.inr (.inr ⟨method, hmethod, .inl rfl⟩))))), hparameters]
    intro parameter hparameter
    exact hmention (.inr (.inr (.inr (.inr (.inr
      ⟨method, hmethod, .inr ⟨parameter, hparameter, rfl⟩⟩)))))

theorem mapTypes_mapTypes : (decl.mapTypes f).mapTypes g = decl.mapTypes (g ∘ f) := by
  simp only [mapTypes, Option.map_map, List.map_map, Function.comp_def]

theorem mapTypes_id : decl.mapTypes id = decl := by
  simp [mapTypes]

/-- The types of the mapped declaration are the images of the types. -/
theorem types_mapTypes : (decl.mapTypes f).types = decl.types.map f := by
  have hsuperclass : (decl.superclass?.map f).toList = decl.superclass?.toList.map f := by
    cases decl.superclass? <;> rfl
  simp [types, mapTypes, hsuperclass, List.map_flatMap, List.flatMap_map, Function.comp_def]

/-- The names of the type parameters stay. -/
theorem typeParameterNames_mapTypes :
    (decl.mapTypes f).typeParameterNames = decl.typeParameterNames := by
  simp [typeParameterNames, mapTypes, Function.comp_def]

end Mapping

/-- What a declaration says apart from types. -/
def outline (decl : ClassDecl) : ClassDecl := decl.mapTypes fun _ => .void

theorem outline_mapTypes (decl : ClassDecl) (f : JavaType → JavaType) :
    (decl.mapTypes f).outline = decl.outline := by
  rw [outline, mapTypes_mapTypes]
  rfl

end ClassDecl

/-! ## Reading -/

namespace Yaml.Decoder

/-- Everything that a decoder reads has a property. -/
def Yields {α : Type} (decoder : Decoder α) (property : α → Prop) : Prop :=
  ∀ node value, decoder node = .ok value → property value

variable {α β : Type} {decoder : Decoder α} {property : α → Prop}

/-- What is computed in two stages. -/
theorem bind_eq_ok {first : Except Mismatch α} {next : α → Except Mismatch β} {result : β} :
    (first >>= next) = .ok result ↔ ∃ value, first = .ok value ∧ next value = .ok result := by
  cases first <;> simp [Bind.bind, Except.bind]

theorem Yields.list (h : Yields decoder property) :
    Yields (list decoder) fun values => ∀ value ∈ values, property value := by
  intro node values hread
  unfold Decoder.list at hread
  split at hread
  · next items =>
    induction items generalizing values with
    | nil =>
      cases hread
      simp
    | cons item items ih =>
      rw [List.mapM_cons, bind_eq_ok] at hread
      obtain ⟨value, hvalue, hrest⟩ := hread
      rw [bind_eq_ok] at hrest
      obtain ⟨rest, hitems, hall⟩ := hrest
      cases hall
      exact List.forall_mem_cons.2 ⟨h item value hvalue, ih rest hitems⟩
  · cases hread
    simp
  · cases hread

theorem Yields.nullable (h : Yields decoder property) :
    Yields (nullable decoder) fun value? => ∀ value, value? = some value → property value := by
  have hsome : ∀ node value?, (some <$> decoder node) = .ok value? →
      ∀ value, value? = some value → property value := by
    intro node value? hread value hvalue
    cases hdecoded : decoder node with
    | error mismatch =>
      rw [hdecoded] at hread
      cases hread
    | ok decoded =>
      rw [hdecoded] at hread
      cases hread
      cases hvalue
      exact h node _ hdecoded
  intro node value? hread
  unfold Decoder.nullable at hread
  split at hread
  · split at hread
    · split at hread
      · cases hread
        simp
      · exact hsome _ _ hread
    · split at hread
      · split at hread
        · cases hread
          simp
        · cases hread
      · exact hsome _ _ hread
  · exact hsome _ _ hread

theorem Yields.required (h : Yields decoder property) {record : Record} {key : String} {value : α}
    (hread : record.required key decoder = .ok value) : property value := by
  unfold Record.required at hread
  split at hread
  · exact h _ value hread
  · cases hread

theorem Yields.optional (h : Yields decoder property) {record : Record} {key : String}
    {default value : α} (hdefault : property default)
    (hread : record.optional key default decoder = .ok value) : property value := by
  unfold Record.optional at hread
  split at hread
  · exact h _ value hread
  · cases hread
    exact hdefault

theorem yields_javaType : Yields javaType JavaType.IsPrintable := by
  intro node type hread
  unfold javaType at hread
  split at hread
  · cases hread
  · split at hread
    · next hparse =>
      cases hread
      exact JavaType.isPrintable_of_parse hparse
    · cases hread

end Yaml.Decoder

open Yaml.Decoder

theorem Parameter.yields_decode :
    Yields Parameter.decode fun parameter => parameter.type.IsPrintable := by
  intro node parameter hread
  simp only [Parameter.decode, bind_eq_ok] at hread
  obtain ⟨fields, -, name, -, type, htype, hresult⟩ := hread
  cases hresult
  exact yields_javaType.required htype

theorem TypeParameter.yields_decode :
    Yields TypeParameter.decode fun parameter =>
      ∀ bound ∈ parameter.bounds, bound.IsPrintable := by
  intro node parameter hread
  simp only [TypeParameter.decode, bind_eq_ok] at hread
  obtain ⟨fields, -, name, -, bounds, hbounds, hresult⟩ := hread
  cases hresult
  exact yields_javaType.list.optional (by simp) hbounds

theorem FieldDecl.yields_decode :
    Yields FieldDecl.decode fun field => field.type.IsPrintable := by
  intro node field hread
  simp only [FieldDecl.decode, bind_eq_ok] at hread
  obtain ⟨fields, -, name, -, type, htype, modifiers, -, annotations, -, hresult⟩ := hread
  cases hresult
  exact yields_javaType.required htype

theorem MethodDecl.yields_decode :
    Yields MethodDecl.decode fun method =>
      method.returnType.IsPrintable ∧
        ∀ parameter ∈ method.parameters, parameter.type.IsPrintable := by
  intro node method hread
  simp only [MethodDecl.decode, bind_eq_ok] at hread
  obtain ⟨fields, -, name, -, modifiers, -, parameters, hparameters, returnType, hreturn,
    hresult⟩ := hread
  cases hresult
  have hvoid : JavaType.IsPrintable .void := rfl
  exact ⟨yields_javaType.optional hvoid hreturn,
    Parameter.yields_decode.list.optional (by simp) hparameters⟩

theorem ConstructorDecl.yields_decode :
    Yields ConstructorDecl.decode fun constructor =>
      ∀ parameter ∈ constructor.parameters, parameter.type.IsPrintable := by
  intro node constructor hread
  simp only [ConstructorDecl.decode, bind_eq_ok] at hread
  obtain ⟨fields, -, modifiers, -, parameters, hparameters, hresult⟩ := hread
  cases hresult
  exact Parameter.yields_decode.list.optional (by simp) hparameters

/-- All types of a class that was read can be printed. -/
theorem ClassDecl.yields_decode :
    Yields ClassDecl.decode fun decl => ∀ type ∈ decl.types, type.IsPrintable := by
  intro node decl hread
  simp only [ClassDecl.decode, bind_eq_ok] at hread
  obtain ⟨fields, -, name, -, package?, -, kind, -, modifiers, -, typeParameters, hparameters,
    superclass?, hsuperclass, interfaces, hinterfaces, annotations, -, constructors, hconstructors,
    fieldDecls, hfields, methods, hmethods, hresult⟩ := hread
  cases hresult
  have hsuper := yields_javaType.nullable.optional (by simp) hsuperclass
  have hinterface := yields_javaType.list.optional (by simp) hinterfaces
  have hparameter := TypeParameter.yields_decode.list.optional (by simp) hparameters
  have hconstructor := ConstructorDecl.yields_decode.list.optional (by simp) hconstructors
  have hfield := FieldDecl.yields_decode.list.optional (by simp) hfields
  have hmethod := MethodDecl.yields_decode.list.optional (by simp) hmethods
  intro type htype
  rcases ClassDecl.mem_types_iff.1 htype with h | h | ⟨parameter, hmem, hbound⟩ |
    ⟨constructor, hmem, parameter, hof, rfl⟩ | ⟨field, hmem, rfl⟩ |
    ⟨method, hmem, rfl | ⟨parameter, hof, rfl⟩⟩
  · exact hsuper type h
  · exact hinterface type h
  · exact hparameter parameter hmem type hbound
  · exact hconstructor constructor hmem parameter hof
  · exact hfield field hmem
  · exact (hmethod method hmem).1
  · exact (hmethod method hmem).2 parameter hof

/-- All types in a model that was read from a text can be printed. -/
theorem ModelFile.isPrintable_of_read {contents : String} {model : ModelFile}
    (h : ModelFile.read contents = .ok model) :
    ∀ decl ∈ model.classes, ∀ type ∈ decl.types, type.IsPrintable := by
  unfold ModelFile.read readText at h
  split at h
  · cases h
  · split at h
    · cases h
    · next hdecode =>
      cases h
      simp only [ModelFile.decode, bind_eq_ok] at hdecode
      obtain ⟨fields, -, header, -, classes, hclasses, hresult⟩ := hdecode
      cases hresult
      exact ClassDecl.yields_decode.list.optional (by simp) hclasses

end BundleBuilder
