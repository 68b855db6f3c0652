/-
Errors about what is defined or declared more than once: types, directives, fields of a type over
all its definitions and extensions, and arguments of a field. Each definition or declaration after
the first of its name is reported, against the first one.
-/
import PagedSchema.Proofs.PagedErrors
import PagedSchema.Proofs.RepeatedKeys

namespace PagedSchema

namespace SchemaError

/-- The name of a type that is defined again, with the location of its first definition and of the
one reported. So for directives and fields. -/
def duplicateType? : SchemaError → Option (String × Location × Location)
  | duplicateType name first second => some (name, first, second)
  | _ => none

def duplicateDirective? : SchemaError → Option (String × Location × Location)
  | duplicateDirective name first second => some (name, first, second)
  | _ => none

def duplicateField? : SchemaError → Option (Coordinate × Location × Location)
  | duplicateField field first second => some (field, first, second)
  | _ => none

/-- A field with the name of a repeated argument, and the location of the argument. -/
def duplicateArgument? : SchemaError → Option (Coordinate × String × Location)
  | duplicateArgument field argument location => some (field, argument, location)
  | _ => none

end SchemaError

/-- The fields that a definition or extension of an object, interface or input type declares. -/
def Sourced.fieldEntries (s : Sourced) : List (Coordinate × Location) :=
  match s.definition with
  | .type ⟨_, _, type, _, .output _ _ fields⟩ =>
    fields.map fun f => (⟨type, f.name⟩, s.origin.locate f.position)
  | .type ⟨_, _, type, _, .input fields⟩ =>
    fields.map fun f => (⟨type, f.name⟩, s.origin.locate f.position)
  | _ => []

/-- The arguments of each field that a definition or extension of an object or interface type
declares. -/
def Sourced.argumentLists (s : Sourced) : List (Coordinate × List (String × Location)) :=
  match s.definition with
  | .type ⟨_, _, type, _, .output _ _ fields⟩ =>
    fields.map fun f =>
      (⟨type, f.name⟩, f.arguments.map fun a => (a.name, s.origin.locate a.position))
  | _ => []

namespace Document

variable (doc : Document)

/-- The type definitions of a document, without extensions. -/
def typeEntries : List (String × Location) :=
  doc.filterMap fun s =>
    match s.definition with
    | .type d => if d.role = .extension then none else some (d.name, s.location)
    | _ => none

def directiveEntries : List (String × Location) :=
  doc.filterMap fun s =>
    match s.definition with
    | .directive d => some (d.name, s.location)
    | _ => none

def fieldEntries : List (Coordinate × Location) := doc.flatMap (·.fieldEntries)

def argumentLists : List (Coordinate × List (String × Location)) := doc.flatMap (·.argumentLists)

end Document

namespace Check

/-- The field that a check declares, with its location, if it declares one. -/
def declaration? : Check → Option (Coordinate × Location)
  | declares field location => some (field, location)
  | _ => none

/-- The argument that a check reports, if it reports one. -/
def repetition? : Check → Option (Coordinate × String × Location)
  | repeatsArgument field argument location => some (field, argument, location)
  | _ => none

/-- The repeated arguments of a field. -/
def repetitions (entry : Coordinate × List (String × Location)) :
    List (Coordinate × String × Location) :=
  (repeats entry.2).map fun (argument, _, location) => (entry.1, argument, location)

section Read

variable {β : Type} {read? : Check → Option β} {origin : Origin}
  (skips : ∀ name user location, read? (.refers name user location) = none)

include skips

theorem filterMap_refers (names : List String) (user : String) (location : Location) :
    (names.map (refers · user location)).filterMap read? = [] := by
  simp [skips]

theorem filterMap_ofInputs (owner : String) (values : List InputValue) :
    (ofInputs origin owner values).filterMap read? = [] := by
  simp [ofInputs, skips]

/-- What is not read off references and extensions comes from the fields of a definition. -/
theorem filterMap_ofDefinition
    (unread : ∀ type location, read? (.extends type location) = none) (s : Sourced) :
    (ofDefinition s).filterMap read? =
      match s.definition with
      | .type ⟨_, _, type, _, .output _ _ fields⟩ =>
        fields.flatMap fun f => (ofField s.origin type f).filterMap read?
      | .type ⟨_, _, type, _, .input fields⟩ =>
        fields.filterMap fun f => read? (.declares ⟨type, f.name⟩ (s.origin.locate f.position))
      | _ => [] := by
  obtain ⟨origin, definition⟩ := s
  cases definition with
  | schema d =>
      obtain ⟨position, directives, query, mutation, subscription⟩ := d
      cases query <;> cases mutation <;> cases subscription <;> simp [ofDefinition, ofSchema, skips]
  | directive d => exact filterMap_ofInputs skips _ _
  | type d =>
      obtain ⟨role, position, name, directives, body⟩ := d
      have head : (ofType ⟨origin, ⟨role, position, name, directives, body⟩⟩).filterMap read? =
          (ofTypeBody origin name (origin.locate position) body).filterMap read? := by
        rw [ofType, List.filterMap_append]
        split
        · rw [List.filterMap_cons_none (unread _ _)]
          rfl
        · rfl
      change (ofType _).filterMap read? = _
      rw [head]
      cases body with
      | scalar => rfl
      | enum values => rfl
      | union members => exact filterMap_refers skips members _ _
      | input fields =>
          rw [ofTypeBody, List.filterMap_append, filterMap_ofInputs skips, List.append_nil,
            List.filterMap_map]
          rfl
      | output kind interfaces fields =>
          rw [ofTypeBody, List.filterMap_append, filterMap_refers skips, List.nil_append,
            List.filterMap_flatMap]

end Read

theorem declarations_ofField (origin : Origin) (type : String) (f : Field) :
    (ofField origin type f).filterMap declaration? =
      [(⟨type, f.name⟩, origin.locate f.position)] := by
  have none_declared : ∀ field, (repeatedArguments origin field f.arguments).filterMap
      declaration? = [] := by
    simp [repeatedArguments, declaration?]
  rw [ofField, List.filterMap_append, List.filterMap_append, none_declared,
    filterMap_ofInputs fun _ _ _ => rfl]
  rfl

theorem repetitions_ofField (origin : Origin) (type : String) (f : Field) :
    (ofField origin type f).filterMap repetition? = repetitions (⟨type, f.name⟩,
      f.arguments.map fun a => (a.name, origin.locate a.position)) := by
  have all_repeated : ∀ field, (repeatedArguments origin field f.arguments).filterMap
      repetition? = repetitions (field,
        f.arguments.map fun a => (a.name, origin.locate a.position)) := by
    intro field
    rw [repeatedArguments, List.filterMap_map]
    exact congrFun List.filterMap_eq_map _
  rw [ofField, List.filterMap_append, List.filterMap_append, all_repeated,
    filterMap_ofInputs fun _ _ _ => rfl, List.append_nil]
  rfl

theorem declarations_ofDefinition (s : Sourced) :
    (ofDefinition s).filterMap declaration? = s.fieldEntries := by
  rw [filterMap_ofDefinition (fun _ _ _ => rfl) (fun _ _ => rfl), Sourced.fieldEntries]
  split
  · simp only [declarations_ofField]
    exact List.map_eq_flatMap.symm
  · exact congrFun List.filterMap_eq_map _
  · rfl

theorem repetitions_ofDefinition (s : Sourced) :
    (ofDefinition s).filterMap repetition? = s.argumentLists.flatMap repetitions := by
  rw [filterMap_ofDefinition (fun _ _ _ => rfl) (fun _ _ => rfl)]
  obtain ⟨origin, definition⟩ := s
  cases definition with
  | schema d => rfl
  | directive d => rfl
  | type d =>
      obtain ⟨role, position, name, directives, body⟩ := d
      cases body with
      | output kind interfaces fields =>
          simp only [repetitions_ofField, Sourced.argumentLists, List.flatMap_map]
      | input fields => exact List.filterMap_eq_nil_iff.mpr fun _ _ => rfl
      | scalar | enum | union => rfl

end Check

open SchemaError Check

namespace Document

variable (doc : Document)

/-- A walk reports the fields that it meets again, as `repeats` does with their list. -/
theorem filterMap_duplicateField?_failedChecks (defined : List String)
    (seen : Table Coordinate Location) (checks : List Check) :
    (failedChecks defined seen checks).filterMap duplicateField? =
      repeatsFrom seen (checks.filterMap declaration?) := by
  induction checks generalizing seen with
  | nil => rfl
  | cons c rest ih =>
      rw [failedChecks_cons, List.filterMap_append, ih]
      cases c with
      | declares field location =>
          change _ = repeatsFrom seen ((field, location) :: rest.filterMap declaration?)
          simp only [failure?, record, repeatsFrom]
          cases seen.get? field <;> rfl
      | repeatsArgument field argument location => rfl
      | refers name user location =>
          simp only [failure?]
          split <;> rfl
      | «extends» type location =>
          simp only [failure?]
          split <;> rfl

theorem filterMap_duplicateArgument?_failedChecks (defined : List String)
    (seen : Table Coordinate Location) (checks : List Check) :
    (failedChecks defined seen checks).filterMap duplicateArgument? =
      checks.filterMap repetition? := by
  apply filterMap_failedChecks
  intro c before
  cases c with
  | declares field location => cases h : before.get? field <;> simp [failure?, h] <;> rfl
  | repeatsArgument field argument location => rfl
  | refers name user location =>
      simp only [failure?]
      split <;> rfl
  | «extends» type location =>
      simp only [failure?]
      split <;> rfl

/-- What is not read off definitions that repeat a name comes from the checks. -/
theorem filterMap_errors_eq_filterMap_failedChecks {β : Type} {read : SchemaError → Option β}
    (skips : ∀ (name : DefinedName) first second, read (name.duplicate first second) = none) :
    doc.errors.filterMap read =
      (failedChecks (doc.typeDefinitions.map (·.decl.name)) .empty doc.checks).filterMap read := by
  have none_read : doc.duplicateDefinitions.filterMap read = [] := by
    rw [List.filterMap_eq_nil_iff]
    intro e member
    obtain ⟨⟨name, first, second⟩, -, rfl⟩ := List.mem_map.mp member
    exact skips name first second
  rw [errors, List.filterMap_append, none_read, List.nil_append]

/-- Among names of one kind the definitions reported again are those that are so among all names,
and checks report none. -/
theorem filterMap_errors_eq_repeats {name? : DefinedName → Option String}
    {named : String → DefinedName} {again? : SchemaError → Option (String × Location × Location)}
    {keyed? : Sourced → Option (String × Location)}
    (only : ∀ n name, name? n = some name ↔ n = named name)
    (reads : ∀ n first second, again? (n.duplicate first second) = (name? n).map (·, first, second))
    (others : ∀ e, e.isDuplicateType = false → e.isDuplicateDirective = false → again? e = none)
    (entries : ∀ s, keyed? s = (s.defines?.bind name?).map (·, s.location)) :
    doc.errors.filterMap again? = repeats (doc.filterMap keyed?) := by
  have restricted : restrictKeys name? doc.definitionEntries = doc.filterMap keyed? := by
    rw [restrictKeys, definitionEntries, List.filterMap_filterMap]
    congr 1
    funext s
    rw [entries]
    cases s.defines? <;> rfl
  have checked : ∀ checks, (failedChecks (doc.typeDefinitions.map (·.decl.name)) .empty
      checks).filterMap again? = [] := by
    intro checks
    rw [List.filterMap_eq_nil_iff]
    intro e member
    obtain ⟨directive, type⟩ := not_duplicate_of_mem_failedChecks member
    exact others e type directive
  have injective : ∀ n n' name, name? n = some name → name? n' = some name → n = n' := by
    intro n n' name same same'
    rw [(only n name).mp same, (only n' name).mp same']
  rw [errors, List.filterMap_append, checked, List.append_nil, ← restricted,
    ← restrictKeys_repeats injective]
  change List.filterMap _ ((repeats doc.definitionEntries).map _) = _
  rw [List.filterMap_map, restrictKeys]
  congr 1
  funext report
  obtain ⟨n, first, second⟩ := report
  exact reads n first second

theorem filterMap_duplicateType?_errors :
    doc.errors.filterMap duplicateType? = repeats doc.typeEntries := by
  apply doc.filterMap_errors_eq_repeats DefinedName.type?_eq_some_iff
  case reads => rintro (_ | _) first second <;> rfl
  case others => rintro (_ | _) <;> intros <;> first | rfl | contradiction
  case entries => rintro ⟨origin, d | d | ⟨_ | _, position, name, directives, body⟩⟩ <;> rfl

theorem filterMap_duplicateDirective?_errors :
    doc.errors.filterMap duplicateDirective? = repeats doc.directiveEntries := by
  apply doc.filterMap_errors_eq_repeats DefinedName.directive?_eq_some_iff
  case reads => rintro (_ | _) first second <;> rfl
  case others => rintro (_ | _) <;> intros <;> first | rfl | contradiction
  case entries => rintro ⟨origin, d | d | ⟨_ | _, position, name, directives, body⟩⟩ <;> rfl

theorem filterMap_duplicateField?_errors :
    doc.errors.filterMap duplicateField? = repeats doc.fieldEntries := by
  have skips : ∀ (name : DefinedName) first second,
      duplicateField? (name.duplicate first second) = none := by
    rintro (_ | _) first second <;> rfl
  rw [doc.filterMap_errors_eq_filterMap_failedChecks skips, filterMap_duplicateField?_failedChecks,
    checks, List.filterMap_flatMap]
  simp only [declarations_ofDefinition]
  rfl

theorem filterMap_duplicateArgument?_errors :
    doc.errors.filterMap duplicateArgument? = doc.argumentLists.flatMap repetitions := by
  have skips : ∀ (name : DefinedName) first second,
      duplicateArgument? (name.duplicate first second) = none := by
    rintro (_ | _) first second <;> rfl
  rw [doc.filterMap_errors_eq_filterMap_failedChecks skips,
    filterMap_duplicateArgument?_failedChecks, checks, List.filterMap_flatMap]
  simp only [repetitions_ofDefinition, argumentLists, List.flatMap_assoc]

/-- The errors about types, directives and fields that are defined or declared again are those of
the later ones of each name, against the first. Those about arguments are so in each declaration of
a field by itself. -/
theorem reportsRepeats_errors (doc : Document) :
    ReportsRepeats doc.typeEntries (doc.errors.filterMap duplicateType?) ∧
    ReportsRepeats doc.directiveEntries (doc.errors.filterMap duplicateDirective?) ∧
    ReportsRepeats doc.fieldEntries (doc.errors.filterMap duplicateField?) ∧
    ∃ later : List (String × Location) → List (String × Location × Location),
      (∀ arguments, ReportsRepeats arguments (later arguments)) ∧
      doc.errors.filterMap duplicateArgument? =
        doc.argumentLists.flatMap fun (field, arguments) =>
          (later arguments).map fun (argument, _, location) => (field, argument, location) := by
  refine ⟨?_, ?_, ?_, repeats, reportsRepeats_repeats, ?_⟩
  · rw [filterMap_duplicateType?_errors]
    exact reportsRepeats_repeats _
  · rw [filterMap_duplicateDirective?_errors]
    exact reportsRepeats_repeats _
  · rw [filterMap_duplicateField?_errors]
    exact reportsRepeats_repeats _
  · exact doc.filterMap_duplicateArgument?_errors

end Document

end PagedSchema
