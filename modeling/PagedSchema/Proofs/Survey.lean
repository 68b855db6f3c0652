/-
What a survey says about its document: the types it knows, the base types of marked fields, and the
base type under which it remembers a marked field.
-/
import PagedSchema.Proofs.WellFormed

namespace PagedSchema.Document

variable (doc : Document) (settings : Settings)

theorem get?_declared_eq_none_iff (name : String) :
    (doc.survey settings).declared.get? name = none ↔ name ∉ doc.typeNames := by
  change (Table.ofFirst (doc.types.map fun t => (t.decl.name, t.location))).get? name = none ↔ _
  rw [Table.get?_ofFirst_eq_none_iff, List.map_map, ← types_map_name]
  rfl

theorem hasType_iff (name : String) :
    (doc.survey settings).hasType name ↔ name ∈ doc.typeNames := by
  unfold Survey.hasType Table.contains
  rw [Option.isSome_iff_ne_none, ne_eq, get?_declared_eq_none_iff, not_not]

theorem redefinitions_eq_nil_iff :
    (doc.survey settings).redefinitions = [] ↔ doc.definedTypes.Nodup := by
  change (repeats (doc.typeDefinitions.map fun t => (t.decl.name, t.location))).map _ = [] ↔ _
  rw [List.map_eq_nil_iff, repeats, repeatsFrom_eq_nil_iff, List.map_map,
    ← typeDefinitions_map_name]
  simp [Function.comp_def]

/-- The declarations of marked fields, with the names of their types. -/
def markedDeclarations (marker : String) : List (String × Field) :=
  doc.outputFields.filter fun (_, f) => hasDirective f.directives marker

theorem mem_markedDeclarations {marker : String} {entry : String × Field} :
    entry ∈ doc.markedDeclarations marker ↔
      entry ∈ doc.outputFields ∧ hasDirective entry.2.directives marker := List.mem_filter

/-- The base types of marked fields. -/
def markedBases (marker : String) : List String :=
  (doc.markedDeclarations marker).map (·.2.type.base)

theorem mem_baseTypes_iff (base : String) :
    base ∈ (doc.survey settings).baseTypes ↔ base ∈ doc.markedBases settings.marker := by
  change base ∈ firstMet ((doc.markedFields settings.marker).map (·.2)) ↔ _
  rw [mem_firstMet, markedFields, List.map_map]
  rfl

theorem mem_typeNames_iff (name : String) :
    name ∈ doc.typeNames ↔ name ∈ doc.definedTypes ∨ name ∈ doc.extendedTypes := by
  have one : ∀ d : Definition,
      d.typeName? = some name ↔ d.definedType? = some name ∨ d.extendedType? = some name := by
    intro d
    cases d with
    | schema d => simp [Definition.typeName?, Definition.definedType?, Definition.extendedType?,
        Definition.type?]
    | directive d => simp [Definition.typeName?, Definition.definedType?,
        Definition.extendedType?, Definition.type?]
    | type d =>
        cases h : d.isExtension <;>
          simp [Definition.typeName?, Definition.definedType?, Definition.extendedType?,
            Definition.type?, h]
  simp only [typeNames, definedTypes, extendedTypes, List.mem_filterMap, one, and_or_left,
    exists_or]

/-- A field is declared on a type that the document names. -/
theorem type_mem_typeNames_of_coordinates {field : Coordinate} (member : field ∈ doc.coordinates) :
    field.type ∈ doc.typeNames := by
  obtain ⟨d, present, declares⟩ := List.mem_flatMap.mp member
  refine List.mem_filterMap.mpr ⟨d, present, ?_⟩
  cases d with
  | schema d => cases declares
  | directive d => cases declares
  | type d =>
      obtain ⟨name, -, rfl⟩ := List.mem_map.mp declares
      rfl

theorem coordinates_of_outputFields_sublist :
    (doc.outputFields.map fun (type, f) => (⟨type, f.name⟩ : Coordinate)).Sublist
      doc.coordinates := by
  rw [outputFields_eq_flatMap, coordinates, List.map_flatMap]
  induction doc.definitions with
  | nil => exact List.Sublist.slnil
  | cons d rest ih =>
      refine List.Sublist.append ?_ ih
      cases d with
      | schema d => exact List.Sublist.slnil
      | directive d => exact List.Sublist.slnil
      | type d =>
          obtain ⟨role, position, name, directives, body⟩ := d
          simp only [Definition.outputFields, Definition.coordinates, List.map_map]
          cases body with
          | output kind interfaces fields =>
              simp [TypeDecl.outputFields, TypeBody.fieldNames, Function.comp_def]
          | scalar => exact List.nil_sublist _
          | enum values => exact List.nil_sublist _
          | union members => exact List.nil_sublist _
          | input fields => exact List.nil_sublist _

theorem mem_coordinates_of_outputFields {type : String} {f : Field}
    (member : (type, f) ∈ doc.outputFields) : ⟨type, f.name⟩ ∈ doc.coordinates :=
  (doc.coordinates_of_outputFields_sublist).subset
    (List.mem_map_of_mem (f := fun (type, f) => (⟨type, f.name⟩ : Coordinate)) member)

/-- A survey remembers no field of a type that its document does not name. -/
theorem get?_marked_eq_none {type : String} (absent : type ∉ doc.typeNames) (field : String) :
    (doc.survey settings).marked.get? ⟨type, field⟩ = none := by
  change (Table.ofLast (doc.markedFields settings.marker)).get? _ = none
  rw [Table.get?_ofLast_eq_none_iff, markedFields, List.map_map]
  intro member
  obtain ⟨⟨other, f⟩, marked, same⟩ := List.mem_map.mp member
  have declared := doc.mem_coordinates_of_outputFields (List.mem_filter.mp marked).1
  cases same
  exact absent (doc.type_mem_typeNames_of_coordinates declared)

theorem mem_markedFields {marker type : String} {f : Field}
    (member : (type, f) ∈ doc.outputFields) (marked : hasDirective f.directives marker) :
    (⟨type, f.name⟩, f.type.base) ∈ doc.markedFields marker :=
  List.mem_map.mpr ⟨(type, f), List.mem_filter.mpr ⟨member, marked⟩, rfl⟩

/-- A marked field is remembered under the base type of some marked declaration. -/
theorem exists_get?_marked {type : String} {f : Field} (member : (type, f) ∈ doc.outputFields)
    (marked : hasDirective f.directives settings.marker) :
    ∃ base ∈ doc.markedBases settings.marker,
      (doc.survey settings).marked.get? ⟨type, f.name⟩ = some base := by
  change ∃ base ∈ _, (Table.ofLast (doc.markedFields settings.marker)).get? _ = some base
  have present := doc.mem_markedFields member marked
  cases found : (Table.ofLast (doc.markedFields settings.marker)).get? ⟨type, f.name⟩ with
  | none =>
      rw [Table.get?_ofLast_eq_none_iff] at found
      exact absurd (List.mem_map_of_mem present) found
  | some base =>
      refine ⟨base, ?_, rfl⟩
      obtain ⟨entry, declared, same⟩ := List.mem_map.mp (Table.mem_of_get?_ofLast found)
      exact List.mem_map.mpr ⟨entry, declared, congrArg Prod.snd same⟩

/-- Where no field is declared twice, it is remembered under its own base type. -/
theorem get?_marked_of_fieldsOnce {type : String} {f : Field} (once : doc.coordinates.Nodup)
    (member : (type, f) ∈ doc.outputFields)
    (marked : hasDirective f.directives settings.marker) :
    (doc.survey settings).marked.get? ⟨type, f.name⟩ = some f.type.base := by
  apply Table.get?_ofLast_of_nodup _ (doc.mem_markedFields member marked)
  rw [markedFields, List.map_map]
  exact (once.sublist doc.coordinates_of_outputFields_sublist).sublist
    (List.filter_sublist.map fun entry : String × Field => (⟨entry.1, entry.2.name⟩ : Coordinate))

theorem types_map_decl :
    doc.types.map (·.decl) = doc.definitions.filterMap (·.type?) := by
  unfold types definitions
  rw [List.map_filterMap, List.filterMap_map]
  congr 1
  funext s
  unfold Sourced.type?
  rw [Option.map_map]
  exact Option.map_id'

theorem hintReadings_some (hints : CacheHints) :
    doc.hintReadings (some hints) =
      (doc.definitions.filterMap (·.type?)).flatMap (typeHints hints) := by
  rw [← types_map_decl, List.flatMap_map]
  rfl

end PagedSchema.Document
