/-
The errors of a document without positions and origins are those of the document without locations.
-/
import PagedSchema.Proofs.MappedTables
import PagedSchema.Proofs.Placement

namespace PagedSchema

def Sourced.unplaced (s : Sourced) : Sourced := ⟨.generated, s.definition.unplaced⟩

/-- A document as if it came from no source. -/
def Document.unplaced (doc : Document) : Document := doc.map (·.unplaced)

def SourcedType.unplaced (t : SourcedType) : SourcedType := ⟨.generated, t.decl.unplaced⟩

/-- Any location gives way to that of generated definitions. -/
def Location.unplaced (_ : Location) : Location := .generated

def SchemaError.unplaced : SchemaError → SchemaError
  | duplicateArgument field argument location =>
    .duplicateArgument field argument location.unplaced
  | duplicateDirective name first second => .duplicateDirective name first.unplaced second.unplaced
  | duplicateField field first second => .duplicateField field first.unplaced second.unplaced
  | duplicateType name first second => .duplicateType name first.unplaced second.unplaced
  | undefinedExtended type location => .undefinedExtended type location.unplaced
  | undefinedType name referencedBy location =>
    .undefinedType name referencedBy location.unplaced

namespace Check

def unplaced : Check → Check
  | declares field location => .declares field location.unplaced
  | refers name referencedBy location => .refers name referencedBy location.unplaced
  | repeatsArgument field argument location => .repeatsArgument field argument location.unplaced
  | «extends» type location => .extends type location.unplaced

variable (origin : Origin)

theorem ofInputs_unplaced (owner : String) (values : List InputValue) :
    ofInputs .generated owner (values.map (·.unplaced)) =
      (ofInputs origin owner values).map unplaced := by
  unfold ofInputs
  rw [List.map_map, List.map_map]
  rfl

theorem repeatedArguments_unplaced (field : Coordinate) (arguments : List InputValue) :
    repeatedArguments .generated field (arguments.map (·.unplaced)) =
      (repeatedArguments origin field arguments).map unplaced := by
  have entries : (arguments.map (·.unplaced)).map
        (fun a => (a.name, Origin.generated.locate a.position)) =
      (arguments.map fun a => (a.name, origin.locate a.position)).map
        (Prod.map id Location.unplaced) := by
    rw [List.map_map, List.map_map]
    rfl
  unfold repeatedArguments
  rw [entries, repeats_map, List.map_map, List.map_map]
  rfl

theorem ofField_unplaced (type : String) (f : Field) :
    ofField .generated type f.unplaced = (ofField origin type f).map unplaced := by
  simp only [ofField, Field.unplaced, repeatedArguments_unplaced origin, ofInputs_unplaced origin,
    List.map_append]
  rfl

theorem ofTypeBody_unplaced (type : String) (location : Location) (body : TypeBody) :
    ofTypeBody .generated type .generated body.unplaced =
      (ofTypeBody origin type location body).map unplaced := by
  cases body with
  | scalar => rfl
  | enum values => rfl
  | union members =>
      simp only [TypeBody.unplaced, ofTypeBody, List.map_map]
      rfl
  | input fields =>
      simp only [TypeBody.unplaced, ofTypeBody, ofInputs_unplaced origin, List.map_append,
        List.map_map]
      rfl
  | output kind interfaces fields =>
      simp only [TypeBody.unplaced, ofTypeBody, List.map_append, List.map_map, List.flatMap_map,
        List.map_flatMap, ofField_unplaced origin]
      rfl

theorem ofSchema_unplaced (d : SchemaDecl) (location : Location) :
    ofSchema d.unplaced .generated = (ofSchema d location).map unplaced := by
  obtain ⟨position, directives, query, mutation, subscription⟩ := d
  cases query <;> cases mutation <;> cases subscription <;> rfl

theorem ofDefinition_unplaced (s : Sourced) :
    ofDefinition s.unplaced = (ofDefinition s).map unplaced := by
  obtain ⟨origin, definition⟩ := s
  cases definition with
  | schema d => exact ofSchema_unplaced d _
  | directive d => exact ofInputs_unplaced origin _ d.arguments
  | type d =>
      change (if d.isExtension then [.extends d.name .generated] else []) ++
          ofTypeBody .generated d.name .generated d.body.unplaced =
        List.map unplaced ((if d.isExtension then [.extends d.name (origin.locate d.position)]
          else []) ++ ofTypeBody origin d.name (origin.locate d.position) d.body)
      rw [List.map_append, ofTypeBody_unplaced origin d.name (origin.locate d.position)]
      congr 1
      split <;> rfl

theorem failure?_unplaced (defined : List String) (seen : Table Coordinate Location) (c : Check) :
    c.unplaced.failure? defined (seen.map Location.unplaced) =
      (c.failure? defined seen).map (·.unplaced) := by
  cases c with
  | declares field location =>
      simp only [unplaced, failure?, Table.get?_map]
      cases seen.get? field <;> rfl
  | refers name referencedBy location =>
      simp only [unplaced, failure?]
      split <;> rfl
  | repeatsArgument field argument location => rfl
  | «extends» type location =>
      simp only [unplaced, failure?]
      split <;> rfl

theorem record_unplaced (seen : Table Coordinate Location) (c : Check) :
    c.unplaced.record (seen.map Location.unplaced) = (c.record seen).map Location.unplaced := by
  cases c with
  | declares field location =>
      simp only [unplaced, record, Table.get?_map]
      cases seen.get? field with
      | some first => rfl
      | none => exact Table.insert_map Location.unplaced seen field location
  | refers => rfl
  | repeatsArgument => rfl
  | «extends» => rfl

end Check

namespace Document

theorem definitions_unplaced (doc : Document) :
    doc.unplaced.definitions = doc.definitions.map (·.unplaced) := by
  unfold unplaced definitions
  rw [List.map_map, List.map_map]
  rfl

theorem checks_unplaced (doc : Document) :
    doc.unplaced.checks = doc.checks.map (·.unplaced) := by
  unfold checks unplaced
  rw [List.flatMap_map, List.map_flatMap]
  exact List.flatMap_congr fun s _ => Check.ofDefinition_unplaced s

/-- Fields are looked up by coordinate alone, so a walk meets the same ones without locations. -/
theorem failedChecks_unplaced (defined : List String) (seen : Table Coordinate Location)
    (checks : List Check) :
    failedChecks defined (seen.map Location.unplaced) (checks.map (·.unplaced)) =
      (failedChecks defined seen checks).map (·.unplaced) := by
  induction checks generalizing seen with
  | nil => rfl
  | cons c rest ih =>
      rw [List.map_cons, failedChecks_cons, failedChecks_cons, Check.failure?_unplaced,
        Check.record_unplaced, ih, List.map_append]
      cases c.failure? defined seen <;> rfl

theorem definedTypes_unplaced (doc : Document) : doc.unplaced.definedTypes = doc.definedTypes := by
  unfold definedTypes
  rw [definitions_unplaced, List.filterMap_map]
  simp only [Function.comp_def, Definition.definedType?_unplaced]

theorem definitionEntries_unplaced (doc : Document) :
    doc.unplaced.definitionEntries =
      doc.definitionEntries.map (Prod.map id Location.unplaced) := by
  unfold definitionEntries unplaced
  rw [List.filterMap_map, List.map_filterMap]
  congr 1
  funext s
  obtain ⟨origin, definition⟩ := s
  cases definition with
  | schema d => rfl
  | directive d => rfl
  | type d =>
      simp only [Function.comp_apply, Sourced.defines?, Sourced.unplaced, Definition.unplaced]
      change Option.map _ (if d.isExtension then none else some (DefinedName.type d.name)) = _
      split <;> rfl

theorem duplicateDefinitions_unplaced (doc : Document) :
    doc.unplaced.duplicateDefinitions = doc.duplicateDefinitions.map (·.unplaced) := by
  change (repeats doc.unplaced.definitionEntries).map _ =
    ((repeats doc.definitionEntries).map _).map _
  rw [definitionEntries_unplaced, repeats_map, List.map_map, List.map_map]
  apply List.map_congr_left
  rintro ⟨name, first, second⟩ -
  cases name <;> rfl

/-- Positions and origins show in the locations of errors, and in nothing else about them. -/
theorem errors_unplaced (doc : Document) :
    doc.unplaced.errors = doc.errors.map (·.unplaced) := by
  have walk := failedChecks_unplaced doc.definedTypes .empty doc.checks
  change failedChecks doc.definedTypes .empty _ = _ at walk
  rw [errors, errors, typeDefinitions_map_name, typeDefinitions_map_name, definedTypes_unplaced,
    checks_unplaced, duplicateDefinitions_unplaced, walk, List.map_append]

end Document

end PagedSchema
