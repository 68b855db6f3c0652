/-
Well-formed documents: whatever is defined is defined once, and whatever is used is defined. The
errors of a document are none exactly if it is well formed.
-/
import PagedSchema.Connection.Survey
import PagedSchema.Proofs.Checks

namespace PagedSchema

/-- The types that a field refers to: its own, and those of its arguments. -/
def Field.references (f : Field) : List String := f.type.base :: f.arguments.map (·.type.base)

def TypeBody.references : TypeBody → List String
  | .scalar => []
  | .output _ interfaces fields => interfaces ++ fields.flatMap (·.references)
  | .union members => members
  | .enum _ => []
  | .input fields => fields.map (·.type.base)

def TypeBody.outputFields : TypeBody → List Field
  | .output _ _ fields => fields
  | _ => []

def TypeBody.fieldNames : TypeBody → List String
  | .output _ _ fields => fields.map (·.name)
  | .input fields => fields.map (·.name)
  | _ => []

namespace Definition

/-- The types that a definition refers to. -/
def references : Definition → List String
  | schema d => d.query.toList ++ d.mutation.toList ++ d.subscription.toList
  | directive d => d.arguments.map (·.type.base)
  | type d => d.body.references

/-- The fields that a definition declares. -/
def coordinates : Definition → List Coordinate
  | type d => d.body.fieldNames.map (⟨d.name, ·⟩)
  | _ => []

def outputFields : Definition → List (String × Field)
  | type d => d.outputFields.map (d.name, ·)
  | _ => []

def definedType? : Definition → Option String
  | type d => if d.isExtension then none else some d.name
  | _ => none

def extendedType? : Definition → Option String
  | type d => if d.isExtension then some d.name else none
  | _ => none

def typeName? (d : Definition) : Option String := d.type?.map (·.name)

def directiveName? (d : Definition) : Option String := d.directive?.map (·.name)

end Definition

namespace Document

def references (doc : Document) : List String := doc.definitions.flatMap (·.references)

def coordinates (doc : Document) : List Coordinate := doc.definitions.flatMap (·.coordinates)

def definedTypes (doc : Document) : List String := doc.definitions.filterMap (·.definedType?)

def extendedTypes (doc : Document) : List String := doc.definitions.filterMap (·.extendedType?)

/-- The types that are defined or extended. -/
def typeNames (doc : Document) : List String := doc.definitions.filterMap (·.typeName?)

def directiveNames (doc : Document) : List String := doc.definitions.filterMap (·.directiveName?)

/-- Whatever is defined is defined once, and whatever is used is defined. Types that are only
referred to may be among the `given` ones instead. -/
structure WellFormedWith (doc : Document) (given : List String) : Prop where
  typesOnce : doc.definedTypes.Nodup
  directivesOnce : doc.directiveNames.Nodup
  fieldsOnce : doc.coordinates.Nodup
  argumentsOnce : ∀ entry ∈ doc.outputFields, (entry.2.arguments.map (·.name)).Nodup
  extendsDefined : ∀ name ∈ doc.extendedTypes, name ∈ doc.definedTypes
  refersDefined : ∀ name ∈ doc.references,
    isBuiltinScalar name ∨ name ∈ doc.definedTypes ∨ name ∈ given

def WellFormed (doc : Document) : Prop := doc.WellFormedWith []

instance (doc : Document) (given : List String) : Decidable (doc.WellFormedWith given) :=
  decidable_of_iff (doc.definedTypes.Nodup ∧ doc.directiveNames.Nodup ∧ doc.coordinates.Nodup ∧
      (∀ entry ∈ doc.outputFields, (entry.2.arguments.map (·.name)).Nodup) ∧
      (∀ name ∈ doc.extendedTypes, name ∈ doc.definedTypes) ∧
      ∀ name ∈ doc.references, isBuiltinScalar name ∨ name ∈ doc.definedTypes ∨ name ∈ given)
    ⟨fun ⟨a, b, c, d, e, f⟩ => ⟨a, b, c, d, e, f⟩, fun ⟨a, b, c, d, e, f⟩ => ⟨a, b, c, d, e, f⟩⟩

/-- A document stays well formed if it defines and declares the same in another order, keeps
directives and arguments apart, and extends and refers to nothing else. -/
theorem WellFormedWith.transfer {xs ys : Document} {given given' : List String}
    (wellFormed : xs.WellFormedWith given)
    (defined : xs.definedTypes.Perm ys.definedTypes)
    (directives : xs.directiveNames.Nodup → ys.directiveNames.Nodup)
    (fields : xs.coordinates.Perm ys.coordinates)
    (arguments : ∀ entry ∈ ys.outputFields, (entry.2.arguments.map (·.name)).Nodup)
    (extended : ys.extendedTypes ⊆ xs.extendedTypes)
    (referred : ys.references ⊆ xs.references)
    (names : given ⊆ given') : ys.WellFormedWith given' := by
  constructor
  case typesOnce => exact defined.nodup_iff.mp wellFormed.typesOnce
  case directivesOnce => exact directives wellFormed.directivesOnce
  case fieldsOnce => exact fields.nodup_iff.mp wellFormed.fieldsOnce
  case argumentsOnce => exact arguments
  case extendsDefined =>
    intro name member
    exact defined.subset (wellFormed.extendsDefined name (extended member))
  case refersDefined =>
    intro name member
    rcases wellFormed.refersDefined name (referred member) with scalar | known | generated
    · exact .inl scalar
    · exact .inr (.inl (defined.subset known))
    · exact .inr (.inr (names generated))

theorem references_append (xs ys : Document) :
    references (xs ++ ys) = references xs ++ references ys := by
  simp only [references, definitions, List.map_append, List.flatMap_append]

theorem coordinates_append (xs ys : Document) :
    coordinates (xs ++ ys) = coordinates xs ++ coordinates ys := by
  simp only [coordinates, definitions, List.map_append, List.flatMap_append]

theorem definedTypes_append (xs ys : Document) :
    definedTypes (xs ++ ys) = definedTypes xs ++ definedTypes ys := by
  simp only [definedTypes, definitions, List.map_append, List.filterMap_append]

theorem extendedTypes_append (xs ys : Document) :
    extendedTypes (xs ++ ys) = extendedTypes xs ++ extendedTypes ys := by
  simp only [extendedTypes, definitions, List.map_append, List.filterMap_append]

theorem typeNames_append (xs ys : Document) :
    typeNames (xs ++ ys) = typeNames xs ++ typeNames ys := by
  simp only [typeNames, definitions, List.map_append, List.filterMap_append]

theorem directiveNames_append (xs ys : Document) :
    directiveNames (xs ++ ys) = directiveNames xs ++ directiveNames ys := by
  simp only [directiveNames, definitions, List.map_append, List.filterMap_append]

theorem types_map_name (doc : Document) : doc.types.map (·.decl.name) = doc.typeNames := by
  induction doc with
  | nil => rfl
  | cons s rest ih =>
      obtain ⟨origin, definition⟩ := s
      cases definition with
      | schema d => exact ih
      | directive d => exact ih
      | type d => exact congrArg (d.name :: ·) ih

theorem typeDefinitions_map_name (doc : Document) :
    doc.typeDefinitions.map (·.decl.name) = doc.definedTypes := by
  induction doc with
  | nil => rfl
  | cons s rest ih =>
      obtain ⟨origin, definition⟩ := s
      cases definition with
      | schema d => exact ih
      | directive d => exact ih
      | type d =>
          change (List.filter _ (⟨origin, d⟩ :: types rest)).map _ =
            (Definition.type d :: definitions rest).filterMap _
          cases h : d.isExtension with
          | true =>
              rw [List.filter_cons_of_neg (by simp [h]),
                List.filterMap_cons_none (by simp [Definition.definedType?, h])]
              exact ih
          | false =>
              rw [List.filter_cons_of_pos (by simp [h]),
                List.filterMap_cons_some (b := d.name) (by simp [Definition.definedType?, h])]
              exact congrArg (d.name :: ·) ih

theorem outputFields_eq_flatMap (doc : Document) :
    doc.outputFields = doc.definitions.flatMap (·.outputFields) := by
  induction doc with
  | nil => rfl
  | cons s rest ih =>
      obtain ⟨origin, definition⟩ := s
      cases definition with
      | schema d => exact ih
      | directive d => exact ih
      | type d => exact congrArg (d.outputFields.map (d.name, ·) ++ ·) ih

theorem mem_outputFields_iff {doc : Document} {entry : String × Field} :
    entry ∈ doc.outputFields ↔ ∃ s ∈ doc, entry ∈ s.definition.outputFields := by
  rw [outputFields_eq_flatMap, definitions, List.flatMap_map, List.mem_flatMap]

theorem outputFields_append (xs ys : Document) :
    outputFields (xs ++ ys) = outputFields xs ++ outputFields ys := by
  simp only [outputFields_eq_flatMap, definitions, List.map_append, List.flatMap_append]

end Document

/-- A value that only one element is read as is among those read if that element is listed. -/
theorem mem_filterMap_iff_mem {α β : Type} {read? : α → Option β} {a : α} {b : β}
    (only : ∀ x, read? x = some b ↔ x = a) {xs : List α} : b ∈ xs.filterMap read? ↔ a ∈ xs := by
  simp only [List.mem_filterMap, only, exists_eq_right]

namespace DefinedName

def type? : DefinedName → Option String
  | type name => some name
  | directive _ => none

def directive? : DefinedName → Option String
  | type _ => none
  | directive name => some name

theorem type?_eq_some_iff (n : DefinedName) (name : String) :
    n.type? = some name ↔ n = .type name := by
  cases n <;> simp [type?]

theorem directive?_eq_some_iff (n : DefinedName) (name : String) :
    n.directive? = some name ↔ n = .directive name := by
  cases n <;> simp [directive?]

theorem mem_filterMap_type? (names : List DefinedName) (name : String) :
    name ∈ names.filterMap type? ↔ .type name ∈ names :=
  mem_filterMap_iff_mem fun n => type?_eq_some_iff n name

theorem mem_filterMap_directive? (names : List DefinedName) (name : String) :
    name ∈ names.filterMap directive? ↔ .directive name ∈ names :=
  mem_filterMap_iff_mem fun n => directive?_eq_some_iff n name

theorem nodup_iff (names : List DefinedName) :
    names.Nodup ↔ (names.filterMap type?).Nodup ∧ (names.filterMap directive?).Nodup := by
  induction names with
  | nil => simp
  | cons n rest ih =>
      cases n with
      | type name =>
          simp only [List.nodup_cons, List.filterMap_cons, type?, directive?, ih,
            mem_filterMap_type?, and_assoc]
      | directive name =>
          simp only [List.nodup_cons, List.filterMap_cons, type?, directive?, ih,
            mem_filterMap_directive?, and_left_comm]

end DefinedName

namespace Document

/-- The names that the definitions of a document define, in order. -/
def definedNames (doc : Document) : List DefinedName := doc.filterMap (·.defines?)

theorem filterMap_type?_definedNames (doc : Document) :
    doc.definedNames.filterMap DefinedName.type? = doc.definedTypes := by
  unfold definedNames definedTypes definitions
  rw [List.filterMap_filterMap, List.filterMap_map]
  congr 1
  funext s
  obtain ⟨origin, definition⟩ := s
  cases definition with
  | schema d => rfl
  | directive d => rfl
  | type d =>
      simp only [Sourced.defines?, Function.comp, Definition.definedType?]
      split <;> rfl

theorem filterMap_directive?_definedNames (doc : Document) :
    doc.definedNames.filterMap DefinedName.directive? = doc.directiveNames := by
  unfold definedNames directiveNames definitions
  rw [List.filterMap_filterMap, List.filterMap_map]
  congr 1
  funext s
  obtain ⟨origin, definition⟩ := s
  cases definition with
  | schema d => rfl
  | directive d => rfl
  | type d =>
      simp only [Sourced.defines?, Function.comp, Definition.directiveName?,
        Definition.directive?, Option.map_none]
      split <;> rfl

/-- The names that are defined, each with its location. -/
def definitionEntries (doc : Document) : List (DefinedName × Location) :=
  doc.filterMap fun s => s.defines?.map fun name => (name, s.location)

theorem map_fst_definitionEntries (doc : Document) :
    doc.definitionEntries.map Prod.fst = doc.definedNames := by
  unfold definitionEntries definedNames
  rw [List.map_filterMap]
  congr 1
  funext s
  rw [Option.map_map]
  exact Option.map_id'

section SameDefinitions

variable {xs ys : Document} (entries : xs.definitionEntries = ys.definitionEntries)

include entries

theorem definedTypes_congr : xs.definedTypes = ys.definedTypes := by
  rw [← filterMap_type?_definedNames, ← map_fst_definitionEntries, entries,
    map_fst_definitionEntries, filterMap_type?_definedNames]

theorem duplicateDefinitions_congr : xs.duplicateDefinitions = ys.duplicateDefinitions := by
  change (repeats xs.definitionEntries).map _ = (repeats ys.definitionEntries).map _
  rw [entries]

/-- What a document defines and what it claims make its errors. -/
theorem errors_congr (checks : xs.checks = ys.checks) : xs.errors = ys.errors := by
  unfold errors
  rw [typeDefinitions_map_name, typeDefinitions_map_name, definedTypes_congr entries,
    duplicateDefinitions_congr entries, checks]

end SameDefinitions

theorem duplicateDefinitions_eq_nil_iff (doc : Document) :
    doc.duplicateDefinitions = [] ↔ doc.definedTypes.Nodup ∧ doc.directiveNames.Nodup := by
  change (repeats doc.definitionEntries).map _ = [] ↔ _
  rw [List.map_eq_nil_iff, repeats, repeatsFrom_eq_nil_iff, map_fst_definitionEntries,
    DefinedName.nodup_iff, filterMap_type?_definedNames, filterMap_directive?_definedNames]
  simp

end Document

namespace Check

/-- A name that may be referred to. -/
def Resolves (defined : List String) (name : String) : Prop :=
  isBuiltinScalar name ∨ name ∈ defined

/-- A check that reports nothing on its own. -/
def Passes (defined : List String) (c : Check) : Prop := c.failure? defined .empty = none

@[simp] theorem passes_declares (defined : List String) (field : Coordinate)
    (location : Location) : Passes defined (.declares field location) := rfl

@[simp] theorem passes_refers (defined : List String) (name referencedBy : String)
    (location : Location) :
    Passes defined (.refers name referencedBy location) ↔ Resolves defined name := by
  simp only [Passes, failure?, Resolves, Bool.or_eq_true, List.contains_iff_mem,
    ite_eq_left_iff, reduceCtorEq, imp_false, not_not]

@[simp] theorem passes_repeatsArgument (defined : List String) (field : Coordinate)
    (argument : String) (location : Location) :
    ¬ Passes defined (.repeatsArgument field argument location) := by
  intro h
  cases h

@[simp] theorem passes_extends (defined : List String) (type : String) (location : Location) :
    Passes defined (.extends type location) ↔ type ∈ defined := by
  simp only [Passes, failure?, List.contains_iff_mem, ite_eq_left_iff, reduceCtorEq, imp_false,
    not_not]

variable {origin : Origin} {defined : List String}

theorem declared_ofInputs (owner : String) (values : List InputValue) :
    (ofInputs origin owner values).filterMap declared? = [] := by
  simp [ofInputs, declared?]

theorem passes_ofInputs_iff (owner : String) (values : List InputValue) :
    (∀ c ∈ ofInputs origin owner values, Passes defined c) ↔
      ∀ name ∈ values.map (·.type.base), Resolves defined name := by
  simp only [ofInputs, List.forall_mem_map, passes_refers]

theorem declared_repeatedArguments (field : Coordinate) (arguments : List InputValue) :
    (repeatedArguments origin field arguments).filterMap declared? = [] := by
  simp [repeatedArguments, declared?]

theorem repeatedArguments_eq_nil_iff (origin : Origin) (field : Coordinate)
    (arguments : List InputValue) :
    repeatedArguments origin field arguments = [] ↔ (arguments.map (·.name)).Nodup := by
  rw [repeatedArguments, List.map_eq_nil_iff, repeats, repeatsFrom_eq_nil_iff, List.map_map]
  simp [Function.comp_def]

/-- Where an argument is repeated, its check reports that in any case. -/
theorem passes_repeatedArguments_iff (field : Coordinate) (arguments : List InputValue) :
    (∀ c ∈ repeatedArguments origin field arguments, Passes defined c) ↔
      (arguments.map (·.name)).Nodup := by
  rw [← repeatedArguments_eq_nil_iff origin field, repeatedArguments,
    List.forall_mem_map, List.map_eq_nil_iff]
  simp only [passes_repeatsArgument, imp_false]
  exact List.eq_nil_iff_forall_not_mem.symm

theorem declared_ofField (type : String) (f : Field) :
    (ofField origin type f).filterMap declared? = [⟨type, f.name⟩] := by
  simp only [ofField, List.filterMap_append, declared_repeatedArguments, declared_ofInputs]
  rfl

theorem passes_ofField_iff (type : String) (f : Field) :
    (∀ c ∈ ofField origin type f, Passes defined c) ↔
      (∀ name ∈ f.references, Resolves defined name) ∧
        (f.arguments.map (·.name)).Nodup := by
  simp only [ofField, Field.references, List.forall_mem_append, passes_repeatedArguments_iff,
    passes_ofInputs_iff, List.forall_mem_cons, passes_declares, passes_refers, true_and]
  simp only [List.not_mem_nil, false_imp_iff, implies_true, and_true]
  exact and_right_comm

theorem declared_ofTypeBody (type : String) (location : Location) (body : TypeBody) :
    (ofTypeBody origin type location body).filterMap declared? =
      body.fieldNames.map (⟨type, ·⟩) := by
  cases body with
  | scalar => rfl
  | enum values => rfl
  | union members => simp [ofTypeBody, declared?, TypeBody.fieldNames]
  | input fields =>
      simp only [ofTypeBody, List.filterMap_append, declared_ofInputs, List.append_nil,
        TypeBody.fieldNames, List.filterMap_map, List.map_map]
      exact congrFun List.filterMap_eq_map fields
  | output kind interfaces fields =>
      have none_declared : (interfaces.map (refers · type location)).filterMap declared? = [] := by
        simp [declared?]
      simp only [ofTypeBody, List.filterMap_append, none_declared, List.filterMap_flatMap,
        declared_ofField, TypeBody.fieldNames, List.map_map, List.nil_append]
      exact List.map_eq_flatMap.symm

theorem passes_ofTypeBody_iff (type : String) (location : Location) (body : TypeBody) :
    (∀ c ∈ ofTypeBody origin type location body, Passes defined c) ↔
      (∀ name ∈ body.references, Resolves defined name) ∧
        ∀ f ∈ body.outputFields, (f.arguments.map (·.name)).Nodup := by
  cases body with
  | scalar => simp [ofTypeBody, TypeBody.references, TypeBody.outputFields]
  | enum values => simp [ofTypeBody, TypeBody.references, TypeBody.outputFields]
  | union members =>
      simp [ofTypeBody, TypeBody.references, TypeBody.outputFields]
  | input fields =>
      simp only [ofTypeBody, List.forall_mem_append, List.forall_mem_map, passes_declares,
        passes_ofInputs_iff, TypeBody.references, TypeBody.outputFields]
      simp
  | output kind interfaces fields =>
      simp only [ofTypeBody, List.forall_mem_append, List.forall_mem_map, passes_refers,
        List.forall_mem_flatMap, passes_ofField_iff, TypeBody.references, TypeBody.outputFields,
        and_assoc, forall_and]

theorem declared_ofDefinition (s : Sourced) :
    (ofDefinition s).filterMap declared? = s.definition.coordinates := by
  obtain ⟨origin, definition⟩ := s
  cases definition with
  | schema d =>
      obtain ⟨position, directives, query, mutation, subscription⟩ := d
      cases query <;> cases mutation <;> cases subscription <;> rfl
  | directive d => exact declared_ofInputs _ _
  | type d =>
      simp only [ofDefinition, ofType, List.filterMap_append, declared_ofTypeBody,
        Definition.coordinates]
      split <;> rfl

theorem passes_ofDefinition_iff (s : Sourced) :
    (∀ c ∈ ofDefinition s, Passes defined c) ↔
      (∀ name ∈ s.definition.references, Resolves defined name) ∧
        (∀ entry ∈ s.definition.outputFields, (entry.2.arguments.map (·.name)).Nodup) ∧
        ∀ name ∈ s.definition.extendedType?, name ∈ defined := by
  obtain ⟨origin, definition⟩ := s
  cases definition with
  | schema d =>
      simp [ofDefinition, ofSchema, Definition.references, Definition.outputFields,
        Definition.extendedType?, or_imp, forall_and]
  | directive d =>
      simp only [ofDefinition, passes_ofInputs_iff, Definition.references,
        Definition.outputFields, Definition.extendedType?]
      simp
  | type d =>
      have extension : (∀ c ∈ if d.isExtension then
          [Check.extends d.name (origin.locate d.position)] else [], Passes defined c) ↔
          ∀ name ∈ (Definition.type d).extendedType?, name ∈ defined := by
        cases h : d.isExtension <;> simp [Definition.extendedType?, h]
      simp only [ofDefinition, ofType, List.forall_mem_append, passes_ofTypeBody_iff,
        Definition.references, Definition.outputFields, List.forall_mem_map]
      exact ⟨fun ⟨e, r, a⟩ => ⟨r, a, extension.mp e⟩, fun ⟨r, a, e⟩ => ⟨extension.mpr e, r, a⟩⟩

end Check

namespace Document

theorem checks_append (xs ys : Document) : checks (xs ++ ys) = checks xs ++ checks ys :=
  List.flatMap_append

theorem declared_checks (doc : Document) :
    doc.checks.filterMap Check.declared? = doc.coordinates := by
  simp only [checks, coordinates, definitions, List.filterMap_flatMap,
    Check.declared_ofDefinition, List.flatMap_map]

theorem passes_checks_iff (doc : Document) (defined : List String) :
    (∀ c ∈ doc.checks, Check.Passes defined c) ↔
      (∀ name ∈ doc.references, Check.Resolves defined name) ∧
        (∀ entry ∈ doc.outputFields, (entry.2.arguments.map (·.name)).Nodup) ∧
        ∀ name ∈ doc.extendedTypes, name ∈ defined := by
  simp only [checks, List.forall_mem_flatMap, Check.passes_ofDefinition_iff, forall_and,
    references, outputFields_eq_flatMap, extendedTypes, definitions, List.forall_mem_map,
    List.forall_mem_filterMap, Option.mem_def]

/-- A document has no errors exactly if it is well formed. -/
theorem errors_eq_nil_iff (doc : Document) : doc.errors = [] ↔ doc.WellFormed := by
  rw [errors, List.append_eq_nil_iff, duplicateDefinitions_eq_nil_iff, failedChecks_eq_nil_iff,
    declared_checks, typeDefinitions_map_name]
  have walk := passes_checks_iff doc doc.definedTypes
  constructor
  · rintro ⟨⟨types, directives⟩, fields, -, pass⟩
    obtain ⟨refers, arguments, extended⟩ := walk.mp pass
    exact ⟨types, directives, fields, arguments, extended,
      fun name member => (refers name member).imp_right .inl⟩
  · rintro ⟨types, directives, fields, arguments, extended, refers⟩
    refine ⟨⟨types, directives⟩, fields, fun _ _ => rfl, walk.mpr ⟨?_, arguments, extended⟩⟩
    intro name member
    exact (refers name member).imp_right (·.resolve_right List.not_mem_nil)

end Document

end PagedSchema
