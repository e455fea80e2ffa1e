import BundleBuilder.JavaType.Substitution

/-!
# Bindings

What is found in a list of bindings, when a substitution changes nothing, and when two of them are
one. Bindings that come from type parameters and type arguments side by side give each parameter the
argument at its place, provided that the parameters have different names.
-/

set_option autoImplicit false

namespace BundleBuilder

namespace Bindings

variable {α : Type}

/-- What is found was bound. -/
theorem mem_of_lookupLast {name : String} {value : α} {entries : List (String × α)}
    (h : lookupLast name entries = some value) : (name, value) ∈ entries := by
  induction entries with
  | nil => cases h
  | cons entry rest ih =>
    rw [lookupLast] at h
    split at h
    · next found hfound =>
      rw [← h, ← hfound] at ih
      exact List.mem_cons_of_mem _ (ih rfl)
    · split at h
      · next hname =>
        rw [← hname, ← Option.some.inj h]
        exact List.mem_cons_self
      · cases h

/-- A name that is not bound is not found. -/
theorem lookupLast_eq_none {name : String} {entries : List (String × α)}
    (h : name ∉ entries.map Prod.fst) : lookupLast name entries = none := by
  cases hfound : lookupLast name entries with
  | none => rfl
  | some value => exact absurd (List.mem_map_of_mem (mem_of_lookupLast hfound)) h

/-- A name that is bound is found. -/
theorem exists_of_mem_keys {name : String} {entries : List (String × α)}
    (h : name ∈ entries.map Prod.fst) : ∃ value, lookupLast name entries = some value := by
  induction entries with
  | nil => cases h
  | cons entry rest ih =>
    rw [lookupLast]
    cases hrest : lookupLast name rest with
    | some value => exact ⟨value, rfl⟩
    | none =>
      rcases List.mem_cons.1 h with rfl | hmem
      · exact ⟨entry.2, if_pos rfl⟩
      · obtain ⟨value, hvalue⟩ := ih hmem
        rw [hrest] at hvalue
        cases hvalue

/-- An entry whose name is not bound behind it is found. -/
theorem lookupLast_cons_self {name : String} {value : α} {rest : List (String × α)}
    (h : name ∉ rest.map Prod.fst) : lookupLast name ((name, value) :: rest) = some value := by
  rw [lookupLast, lookupLast_eq_none h]
  dsimp only
  rw [if_pos rfl]

theorem lookupLast_cons_of_ne {name : String} {entry : String × α} (h : entry.1 ≠ name)
    (rest : List (String × α)) : lookupLast name (entry :: rest) = lookupLast name rest := by
  rw [lookupLast]
  split
  · next value hvalue => exact hvalue.symm
  · next hnone => rw [if_neg h, hnone]

/-- Different names are bound to the types at their places. -/
theorem map_find?_zip {names : List String} {types : List JavaType} (hnodup : names.Nodup)
    (hlength : types.length = names.length) :
    names.map (find? (names.zip types)) = types.map some := by
  induction names generalizing types with
  | nil =>
    rw [List.length_eq_zero_iff.1 hlength]
    rfl
  | cons name names ih =>
    cases types with
    | nil => cases hlength
    | cons type types =>
      obtain ⟨hnew, hnodup⟩ := List.nodup_cons.1 hnodup
      have hlength : types.length = names.length := Nat.succ.inj hlength
      have hkeys : (names.zip types).map Prod.fst = names :=
        List.map_fst_zip (Nat.le_of_eq hlength.symm)
      have hhead : find? ((name, type) :: names.zip types) name = some type :=
        lookupLast_cons_self (by rwa [hkeys])
      have htail : names.map (find? ((name, type) :: names.zip types))
          = names.map (find? (names.zip types)) := by
        refine List.map_congr_left fun other hother => lookupLast_cons_of_ne ?_ _
        rintro rfl
        exact hnew hother
      rw [List.zip_cons_cons, List.map_cons, hhead, htail, ih hnodup hlength, List.map_cons]

/-- Where values are changed, what is found is changed. -/
theorem lookupLast_map {β : Type} (change : α → β) (name : String) (entries : List (String × α)) :
    lookupLast name (entries.map fun entry => (entry.1, change entry.2))
      = (lookupLast name entries).map change := by
  induction entries with
  | nil => rfl
  | cons entry rest ih =>
    rw [List.map_cons, lookupLast, lookupLast, ih]
    cases lookupLast name rest with
    | some found => rfl
    | none => by_cases hname : entry.1 = name <;> simp [hname]

/-- Behind other entries, an entry counts before them. -/
theorem lookupLast_append (name : String) (first second : List (String × α)) :
    lookupLast name (first ++ second) = (lookupLast name second).or (lookupLast name first) := by
  induction first with
  | nil => rw [List.nil_append, lookupLast, Option.or_none]
  | cons entry first ih =>
    rw [List.cons_append, lookupLast, lookupLast, ih]
    cases lookupLast name second <;> rfl

theorem find?_zip_map (change : JavaType → JavaType) (names : List String) (types : List JavaType)
    (name : String) :
    find? (names.zip (types.map change)) name = (find? (names.zip types) name).map change := by
  rw [find?, List.zip_map_right]
  exact lookupLast_map change name (names.zip types)

end Bindings

namespace JavaType

theorem substituteAll_eq_map (bindings : Bindings) (types : List JavaType) :
    substituteAll bindings types = types.map (substitute bindings) := by
  induction types with
  | nil => rfl
  | cons type types ih => rw [substituteAll, ih, List.map_cons]

/-- Different variables become the types that are bound to them side by side. -/
theorem map_substitute_zip {names : List String} {types : List JavaType} (hnodup : names.Nodup)
    (hlength : types.length = names.length) :
    names.map (fun name => (JavaType.typeVariable name).substitute (names.zip types)) = types := by
  have hfound := Bindings.map_find?_zip hnodup hlength
  calc names.map (fun name => (JavaType.typeVariable name).substitute (names.zip types))
      = (names.map (Bindings.find? (names.zip types))).map (·.getD .void) := by
        rw [List.map_map]
        refine List.map_congr_left fun name hname => ?_
        have hbound : Bindings.find? (names.zip types) name ∈ types.map some :=
          hfound ▸ List.mem_map_of_mem hname
        obtain ⟨type, -, htype⟩ := List.mem_map.1 hbound
        rw [Function.comp_apply, substitute, ← htype]
        rfl
    _ = (types.map some).map (·.getD .void) := by rw [hfound]
    _ = types := by
        rw [List.map_map]
        exact List.map_id types

mutual

/-- Bindings that bind variables to themselves only change nothing. -/
theorem substitute_eq_self {bindings : Bindings}
    (hself : ∀ name type, bindings.find? name = some type → type = .typeVariable name) :
    ∀ type : JavaType, type.substitute bindings = type
  | .typeVariable name => by
    rw [substitute]
    cases hbound : bindings.find? name with
    | none => rfl
    | some type => exact hself name type hbound
  | .declared name args => by rw [substitute, substituteAll_eq_self hself args]
  | .array element => by rw [substitute, substitute_eq_self hself element]
  | .wildcardExtends bound => by rw [substitute, substitute_eq_self hself bound]
  | .wildcardSuper bound => by rw [substitute, substitute_eq_self hself bound]
  | .primitive _ | .void | .wildcard => rfl

theorem substituteAll_eq_self {bindings : Bindings}
    (hself : ∀ name type, bindings.find? name = some type → type = .typeVariable name) :
    ∀ types : List JavaType, substituteAll bindings types = types
  | [] => rfl
  | type :: types => by
    rw [substituteAll, substitute_eq_self hself type, substituteAll_eq_self hself types]

end

/-- Empty bindings change nothing. -/
theorem substitute_nil (type : JavaType) : type.substitute [] = type := by
  apply substitute_eq_self
  intro name bound hbound
  cases hbound

/-! ## Substituting twice -/

mutual

/-- The type variables in a type. -/
def variableNames : JavaType → List String
  | .typeVariable name => [name]
  | .declared _ args => variableNamesAll args
  | .array element => element.variableNames
  | .wildcardExtends bound => bound.variableNames
  | .wildcardSuper bound => bound.variableNames
  | .primitive _ | .void | .wildcard => []

/-- The type variables in a list of types. -/
def variableNamesAll : List JavaType → List String
  | [] => []
  | type :: types => type.variableNames ++ variableNamesAll types

end

mutual

/-- Two substitutions are one if they do the same to the variables of the type. -/
theorem substitute_substitute {inner outer both : Bindings} : ∀ type : JavaType,
    (∀ name ∈ type.variableNames, (JavaType.typeVariable name).substitute both =
      ((JavaType.typeVariable name).substitute inner).substitute outer) →
    (type.substitute inner).substitute outer = type.substitute both
  | .typeVariable name, h => (h name List.mem_cons_self).symm
  | .declared name args, h => by
    simp only [substitute, substituteAll_substituteAll args h]
  | .array element, h => by
    simp only [substitute, substitute_substitute element h]
  | .wildcardExtends bound, h => by
    simp only [substitute, substitute_substitute bound h]
  | .wildcardSuper bound, h => by
    simp only [substitute, substitute_substitute bound h]
  | .primitive _, _ | .void, _ | .wildcard, _ => rfl

theorem substituteAll_substituteAll {inner outer both : Bindings} : ∀ types : List JavaType,
    (∀ name ∈ variableNamesAll types, (JavaType.typeVariable name).substitute both =
      ((JavaType.typeVariable name).substitute inner).substitute outer) →
    substituteAll outer (substituteAll inner types) = substituteAll both types
  | [], _ => rfl
  | type :: types, h => by
    simp only [substituteAll, substitute_substitute type fun name hmem =>
        h name (List.mem_append_left _ hmem), substituteAll_substituteAll types fun name hmem =>
        h name (List.mem_append_right _ hmem)]

end

mutual

/-- The variables after a substitution are those of the types that the variables of the type have
become, one after the other. -/
theorem variableNames_substitute (bindings : Bindings) : ∀ type : JavaType,
    (type.substitute bindings).variableNames = type.variableNames.flatMap fun source =>
      ((JavaType.typeVariable source).substitute bindings).variableNames
  | .typeVariable _ => (List.append_nil _).symm
  | .declared _ args => variableNamesAll_substituteAll bindings args
  | .array element => variableNames_substitute bindings element
  | .wildcardExtends bound => variableNames_substitute bindings bound
  | .wildcardSuper bound => variableNames_substitute bindings bound
  | .primitive _ | .void | .wildcard => rfl

theorem variableNamesAll_substituteAll (bindings : Bindings) : ∀ types : List JavaType,
    variableNamesAll (substituteAll bindings types) = (variableNamesAll types).flatMap fun source =>
      ((JavaType.typeVariable source).substitute bindings).variableNames
  | [] => rfl
  | type :: types => by
    rw [substituteAll, variableNamesAll, variableNamesAll, List.flatMap_append,
      variableNames_substitute bindings type, variableNamesAll_substituteAll bindings types]

end

/-- What a substitution leaves or brings in comes from a variable of the type. -/
theorem exists_variable_of_substitute {bindings : Bindings} {name : String} (type : JavaType)
    (h : name ∈ (type.substitute bindings).variableNames) :
    ∃ source ∈ type.variableNames,
      name ∈ ((JavaType.typeVariable source).substitute bindings).variableNames := by
  rw [variableNames_substitute] at h
  exact List.mem_flatMap.1 h

theorem mem_variableNamesAll_iff {name : String} {types : List JavaType} :
    name ∈ variableNamesAll types ↔ ∃ type ∈ types, name ∈ type.variableNames := by
  induction types with
  | nil => simp [variableNamesAll]
  | cons type types ih => simp [variableNamesAll, ih]

end JavaType

end BundleBuilder
