/-
Documents whose object and interface fields are replaced one by one. Whatever is not such a field
stays as it is, and with it all names that a document defines, extends and declares.
-/
import PagedSchema.Proofs.WellFormed

namespace PagedSchema

/-- The types that a definition refers to apart from the fields of object and interface types. -/
def Definition.plainReferences : Definition → List String
  | type d =>
    match d.body with
    | .output _ interfaces _ => interfaces
    | body => body.references
  | d => d.references

def TypeBody.mapFields (g : Field → Field) : TypeBody → TypeBody
  | .output kind interfaces fields => .output kind interfaces (fields.map g)
  | body => body

def TypeDecl.mapFields (g : Field → Field) (d : TypeDecl) : TypeDecl :=
  { d with body := d.body.mapFields g }

/-- The replacement of a field may look at the name of its type. -/
def Definition.mapFields (g : String → Field → Field) : Definition → Definition
  | type d => .type (d.mapFields (g d.name))
  | d => d

def Sourced.mapFields (g : String → Field → Field) (s : Sourced) : Sourced :=
  { s with definition := s.definition.mapFields g }

def Document.mapFields (g : String → Field → Field) (doc : Document) : Document :=
  doc.map (·.mapFields g)

variable (g : String → Field → Field)

theorem TypeDecl.outputFields_mapFields (k : Field → Field) (d : TypeDecl) :
    (d.mapFields k).outputFields = d.outputFields.map k := by
  obtain ⟨role, position, name, directives, body⟩ := d
  cases body <;> rfl

namespace Definition

theorem definedType?_mapFields (d : Definition) :
    (d.mapFields g).definedType? = d.definedType? := by
  cases d <;> rfl

theorem extendedType?_mapFields (d : Definition) :
    (d.mapFields g).extendedType? = d.extendedType? := by
  cases d <;> rfl

theorem typeName?_mapFields (d : Definition) : (d.mapFields g).typeName? = d.typeName? := by
  cases d <;> rfl

theorem directiveName?_mapFields (d : Definition) :
    (d.mapFields g).directiveName? = d.directiveName? := by
  cases d <;> rfl

theorem outputFields_mapFields (d : Definition) :
    (d.mapFields g).outputFields =
      d.outputFields.map fun entry => (entry.1, g entry.1 entry.2) := by
  cases d with
  | schema d => rfl
  | directive d => rfl
  | type d =>
      simp only [mapFields, outputFields, TypeDecl.outputFields_mapFields, List.map_map]
      rfl

theorem plainReferences_mapFields (d : Definition) :
    (d.mapFields g).plainReferences = d.plainReferences := by
  cases d with
  | schema d => rfl
  | directive d => rfl
  | type d =>
      obtain ⟨role, position, name, directives, body⟩ := d
      cases body <;> rfl

theorem mem_references_iff (d : Definition) (name : String) :
    name ∈ d.references ↔
      name ∈ d.plainReferences ∨ ∃ entry ∈ d.outputFields, name ∈ entry.2.references := by
  cases d with
  | schema d => simp [plainReferences, outputFields]
  | directive d => simp [plainReferences, outputFields]
  | type d =>
      obtain ⟨role, position, type, directives, body⟩ := d
      cases body with
      | output kind interfaces fields =>
          simp [references, plainReferences, outputFields, TypeBody.references,
            TypeDecl.outputFields]
      | scalar | enum | union | input =>
          simp [references, plainReferences, outputFields, TypeDecl.outputFields]

variable {g}

theorem coordinates_mapFields (named : ∀ type f, (g type f).name = f.name) (d : Definition) :
    (d.mapFields g).coordinates = d.coordinates := by
  cases d with
  | schema d => rfl
  | directive d => rfl
  | type d =>
      obtain ⟨role, position, name, directives, body⟩ := d
      cases body with
      | output kind interfaces fields =>
          simp [mapFields, TypeDecl.mapFields, TypeBody.mapFields, coordinates,
            TypeBody.fieldNames, named]
      | scalar => rfl
      | enum values => rfl
      | union members => rfl
      | input fields => rfl

end Definition

namespace Document

theorem definitions_mapFields (doc : Document) :
    (doc.mapFields g).definitions = doc.definitions.map (·.mapFields g) := by
  unfold mapFields definitions
  rw [List.map_map, List.map_map]
  rfl

theorem definedTypes_mapFields (doc : Document) :
    (doc.mapFields g).definedTypes = doc.definedTypes := by
  simp only [definedTypes, definitions_mapFields, List.filterMap_map, Function.comp_def,
    Definition.definedType?_mapFields]

theorem extendedTypes_mapFields (doc : Document) :
    (doc.mapFields g).extendedTypes = doc.extendedTypes := by
  simp only [extendedTypes, definitions_mapFields, List.filterMap_map, Function.comp_def,
    Definition.extendedType?_mapFields]

theorem typeNames_mapFields (doc : Document) : (doc.mapFields g).typeNames = doc.typeNames := by
  simp only [typeNames, definitions_mapFields, List.filterMap_map, Function.comp_def,
    Definition.typeName?_mapFields]

theorem directiveNames_mapFields (doc : Document) :
    (doc.mapFields g).directiveNames = doc.directiveNames := by
  simp only [directiveNames, definitions_mapFields, List.filterMap_map, Function.comp_def,
    Definition.directiveName?_mapFields]

theorem outputFields_mapFields (doc : Document) :
    (doc.mapFields g).outputFields =
      doc.outputFields.map fun entry => (entry.1, g entry.1 entry.2) := by
  simp only [outputFields_eq_flatMap, definitions_mapFields, List.flatMap_map, List.map_flatMap,
    Definition.outputFields_mapFields]

theorem definitionEntries_mapFields (doc : Document) :
    (doc.mapFields g).definitionEntries = doc.definitionEntries := by
  unfold mapFields definitionEntries
  rw [List.filterMap_map]
  congr 1
  funext s
  obtain ⟨origin, definition⟩ := s
  cases definition <;> rfl

/-- The types that a document refers to apart from the fields of object and interface types. -/
def plainReferences (doc : Document) : List String :=
  doc.definitions.flatMap (·.plainReferences)

theorem plainReferences_mapFields (doc : Document) :
    (doc.mapFields g).plainReferences = doc.plainReferences := by
  simp only [plainReferences, definitions_mapFields, List.flatMap_map,
    Definition.plainReferences_mapFields]

theorem mem_references_iff (doc : Document) (name : String) :
    name ∈ doc.references ↔
      name ∈ doc.plainReferences ∨ ∃ entry ∈ doc.outputFields, name ∈ entry.2.references := by
  simp only [references, plainReferences, outputFields_eq_flatMap, List.mem_flatMap,
    Definition.mem_references_iff, and_or_left, exists_or]
  constructor
  · rintro (plain | ⟨d, present, entry, member, refers⟩)
    · exact .inl plain
    · exact .inr ⟨entry, ⟨d, present, member⟩, refers⟩
  · rintro (plain | ⟨entry, ⟨d, present, member⟩, refers⟩)
    · exact .inl plain
    · exact .inr ⟨d, present, entry, member, refers⟩

variable {g}

theorem coordinates_mapFields (named : ∀ type f, (g type f).name = f.name) (doc : Document) :
    (doc.mapFields g).coordinates = doc.coordinates := by
  simp only [coordinates, definitions_mapFields, List.flatMap_map,
    Definition.coordinates_mapFields named]

/-- Only what becomes of the fields of a document matters. -/
theorem mapFields_congr {k : String → Field → Field} {doc : Document}
    (same : ∀ entry ∈ doc.outputFields, g entry.1 entry.2 = k entry.1 entry.2) :
    doc.mapFields g = doc.mapFields k := by
  apply List.map_congr_left
  intro s present
  have fields : ∀ entry ∈ s.definition.outputFields, g entry.1 entry.2 = k entry.1 entry.2 :=
    fun entry member => same entry (mem_outputFields_iff.mpr ⟨s, present, member⟩)
  obtain ⟨origin, definition⟩ := s
  cases definition with
  | schema d => rfl
  | directive d => rfl
  | type d =>
      obtain ⟨role, position, name, directives, body⟩ := d
      cases body with
      | output kind interfaces fs =>
          have mapped : fs.map (g name) = fs.map (k name) := by
            apply List.map_congr_left
            intro f member
            exact fields (name, f) (List.mem_map_of_mem member)
          simp only [Sourced.mapFields, Definition.mapFields, TypeDecl.mapFields,
            TypeBody.mapFields, mapped]
      | scalar => rfl
      | enum values => rfl
      | union members => rfl
      | input fs => rfl

theorem mapFields_id (doc : Document) : doc.mapFields (fun _ f => f) = doc := by
  apply List.map_id''
  intro s
  obtain ⟨origin, definition⟩ := s
  cases definition with
  | schema d => rfl
  | directive d => rfl
  | type d =>
      obtain ⟨role, position, name, directives, body⟩ := d
      cases body with
      | output kind interfaces fields =>
          simp [Sourced.mapFields, Definition.mapFields, TypeDecl.mapFields, TypeBody.mapFields]
      | scalar => rfl
      | enum values => rfl
      | union members => rfl
      | input fs => rfl

/-- A document whose fields stay as they are stays as it is. -/
theorem mapFields_eq_self {doc : Document}
    (same : ∀ entry ∈ doc.outputFields, g entry.1 entry.2 = entry.2) :
    doc.mapFields g = doc :=
  (mapFields_congr same).trans doc.mapFields_id

theorem mapFields_append (xs ys : Document) :
    mapFields g (xs ++ ys) = mapFields g xs ++ mapFields g ys := List.map_append

end Document

end PagedSchema
