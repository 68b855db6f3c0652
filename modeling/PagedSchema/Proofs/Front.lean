/-
What paging puts in front of a document: what it defines, declares and refers to.
-/
import PagedSchema.Proofs.PagedDocument

namespace PagedSchema

namespace Survey

variable {survey : Survey} {settings : Settings} {d : TypeDecl}

theorem isExtension_of_generated (generated : d ∈ survey.generatedTypes settings) :
    d.isExtension = false := by
  rcases (survey.mem_generatedTypes settings).mp generated with
    ⟨rfl, -⟩ | ⟨base, -, hint, -, rfl | rfl⟩
  · rfl
  · rfl
  · rfl

theorem nodup_fieldNames_of_generated (generated : d ∈ survey.generatedTypes settings) :
    d.body.fieldNames.Nodup := by
  rcases (survey.mem_generatedTypes settings).mp generated with
    ⟨rfl, -⟩ | ⟨base, -, hint, -, rfl | rfl⟩
  · change ["hasNextPage", "hasPreviousPage", "startCursor", "endCursor"].Nodup
    decide
  · change ["cursor", "node"].Nodup
    decide
  · change ["totalCount", "edges", "pageInfo"].Nodup
    decide

/-- A generated field has a name, a type, and perhaps a hint. -/
theorem exists_plainField_of_generated (generated : d ∈ survey.generatedTypes settings) {f : Field}
    (member : f ∈ d.outputFields) :
    ∃ name type directives, f = Generated.plainField name type directives ∧
      (directives = [] ∨ ∃ hint, directives = Generated.hintDirective settings hint) := by
  rcases (survey.mem_generatedTypes settings).mp generated with
    ⟨rfl, -⟩ | ⟨base, -, hint, rfl, rfl | rfl⟩ <;>
  · simp only [Generated.pageInfo, Generated.edge, Generated.connection, Generated.objectType,
      TypeDecl.outputFields, List.mem_cons, List.not_mem_nil, or_false] at member
    rcases member with rfl | rfl | rfl | rfl <;>
      first
        | exact ⟨_, _, _, rfl, .inl rfl⟩
        | exact ⟨_, _, _, rfl, .inr ⟨_, rfl⟩⟩

theorem arguments_of_generated (generated : d ∈ survey.generatedTypes settings) {f : Field}
    (member : f ∈ d.outputFields) : f.arguments = [] := by
  obtain ⟨name, type, directives, rfl, -⟩ := exists_plainField_of_generated generated member
  rfl

/-- Apart from scalars, generated types refer to base types, their edges and page information. -/
theorem references_of_generated (generated : d ∈ survey.generatedTypes settings) {name : String}
    (member : name ∈ d.body.references) :
    isBuiltinScalar name ∨ (name = pageInfoName ∧ survey.baseTypes ≠ []) ∨
      ∃ base ∈ survey.baseTypes, name = base ∨ name = edgeName base := by
  rcases (survey.mem_generatedTypes settings).mp generated with
    ⟨rfl, -⟩ | ⟨base, marked, hint, -, rfl | rfl⟩
  · change name ∈ ["Boolean", "Boolean", "String", "String"] at member
    simp only [List.mem_cons, List.not_mem_nil, or_false] at member
    rcases member with rfl | rfl | rfl | rfl <;> exact .inl rfl
  · change name ∈ ["String", base] at member
    simp only [List.mem_cons, List.not_mem_nil, or_false] at member
    rcases member with rfl | rfl
    · exact .inl rfl
    · exact .inr (.inr ⟨name, marked, .inl rfl⟩)
  · change name ∈ ["Int", edgeName base, pageInfoName] at member
    simp only [List.mem_cons, List.not_mem_nil, or_false] at member
    rcases member with rfl | rfl | rfl
    · exact .inl rfl
    · exact .inr (.inr ⟨base, marked, .inr rfl⟩)
    · exact .inr (.inl ⟨rfl, List.ne_nil_of_mem marked⟩)

end Survey

namespace Document

theorem definitions_ofGenerated (types : List TypeDecl) :
    (ofGenerated types).definitions = types.map .type := by
  unfold ofGenerated definitions
  rw [List.map_map]
  rfl

theorem coordinates_ofGenerated (types : List TypeDecl) :
    (ofGenerated types).coordinates =
      types.flatMap fun d => d.body.fieldNames.map (⟨d.name, ·⟩) := by
  unfold coordinates
  rw [definitions_ofGenerated, List.flatMap_map]
  rfl

theorem references_ofGenerated (types : List TypeDecl) :
    (ofGenerated types).references = types.flatMap (·.body.references) := by
  unfold references
  rw [definitions_ofGenerated, List.flatMap_map]
  rfl

theorem definesDirective_iff (doc : Document) (name : String) :
    doc.definesDirective name ↔ name ∈ doc.directiveNames := by
  unfold definesDirective directiveNames
  rw [List.any_eq_true, List.mem_filterMap]
  simp only [Definition.directiveName?, Option.any_eq_true, beq_iff_eq, Option.map_eq_some_iff]

variable (doc : Document) (settings : Settings)

section Declarations

variable (marker : String)

theorem definedTypes_markerDeclarations : (doc.markerDeclarations marker).definedTypes = [] := by
  unfold markerDeclarations
  split <;> rfl

theorem extendedTypes_markerDeclarations :
    (doc.markerDeclarations marker).extendedTypes = [] := by
  unfold markerDeclarations
  split <;> rfl

theorem coordinates_markerDeclarations : (doc.markerDeclarations marker).coordinates = [] := by
  unfold markerDeclarations
  split <;> rfl

theorem references_markerDeclarations : (doc.markerDeclarations marker).references = [] := by
  unfold markerDeclarations
  split <;> rfl

theorem directiveNames_markerDeclarations :
    (doc.markerDeclarations marker).directiveNames =
      if marker ∈ doc.directiveNames then [] else [marker] := by
  unfold markerDeclarations
  simp only [definesDirective_iff]
  split <;> rfl

end Declarations

theorem definedTypes_front : (doc.front settings).definedTypes =
    (doc.survey settings).generatedNames := by
  rw [front, definedTypes_append, definedTypes_markerDeclarations, List.append_nil, definedTypes,
    definitions_ofGenerated, List.filterMap_map, ← Survey.map_name_generatedTypes _ settings,
    ← List.filterMap_eq_map]
  apply List.filterMap_congr
  intro d generated
  simp only [Function.comp_apply, Definition.definedType?,
    Survey.isExtension_of_generated generated, Bool.false_eq_true, if_false]

theorem extendedTypes_front : (doc.front settings).extendedTypes = [] := by
  rw [front, extendedTypes_append, extendedTypes_markerDeclarations, List.append_nil,
    extendedTypes, definitions_ofGenerated, List.filterMap_map, List.filterMap_eq_nil_iff]
  intro d generated
  simp only [Function.comp_apply, Definition.extendedType?,
    Survey.isExtension_of_generated generated, Bool.false_eq_true, if_false]

theorem directiveNames_front : (doc.front settings).directiveNames =
    if settings.marker ∈ doc.directiveNames then [] else [settings.marker] := by
  rw [front, directiveNames_append, directiveNames_markerDeclarations, directiveNames,
    definitions_ofGenerated, List.filterMap_map]
  have none_declared : (((doc.survey settings).generatedTypes settings).filterMap
      (Definition.directiveName? ∘ .type)) = [] := List.filterMap_eq_nil_iff.mpr fun _ _ => rfl
  rw [none_declared, List.nil_append]

theorem coordinates_front : (doc.front settings).coordinates =
    ((doc.survey settings).generatedTypes settings).flatMap fun d =>
      d.body.fieldNames.map (⟨d.name, ·⟩) := by
  rw [front, coordinates_append, coordinates_markerDeclarations, List.append_nil,
    coordinates_ofGenerated]

theorem references_front : (doc.front settings).references =
    ((doc.survey settings).generatedTypes settings).flatMap (·.body.references) := by
  rw [front, references_append, references_markerDeclarations, List.append_nil,
    references_ofGenerated]

variable {doc settings}

theorem type_mem_generatedNames_of_coordinates_front {field : Coordinate}
    (member : field ∈ (doc.front settings).coordinates) :
    field.type ∈ (doc.survey settings).generatedNames := by
  rw [coordinates_front] at member
  obtain ⟨d, generated, declared⟩ := List.mem_flatMap.mp member
  obtain ⟨name, -, rfl⟩ := List.mem_map.mp declared
  rw [← Survey.map_name_generatedTypes _ settings]
  exact List.mem_map_of_mem generated

theorem nodup_coordinates_front : (doc.front settings).coordinates.Nodup := by
  rw [coordinates_front, List.nodup_flatMap]
  constructor
  · intro d generated
    apply (Survey.nodup_fieldNames_of_generated generated).map
    intro a b same
    exact (Coordinate.mk.inj same).2
  · have names := (doc.survey settings).nodup_generatedNames
    rw [← Survey.map_name_generatedTypes _ settings] at names
    apply (List.pairwise_map.mp names).imp
    intro d e different field left right
    obtain ⟨a, -, rfl⟩ := List.mem_map.mp left
    obtain ⟨b, -, same⟩ := List.mem_map.mp right
    exact different (Coordinate.mk.inj same).1.symm

theorem arguments_of_outputFields_front {entry : String × Field}
    (member : entry ∈ (doc.front settings).outputFields) : entry.2.arguments = [] := by
  obtain ⟨d, generated, f, present, rfl⟩ := doc.exists_of_mem_outputFields_front settings member
  exact Survey.arguments_of_generated generated present

/-- A base type is referred to by its edge. -/
theorem mem_references_front_of_baseTypes {base : String}
    (marked : base ∈ (doc.survey settings).baseTypes) :
    base ∈ (doc.front settings).references := by
  rw [references_front, List.mem_flatMap]
  refine ⟨Generated.edge base (Generated.hintDirective settings
    ((doc.survey settings).hints.get? base)), ?_, ?_⟩
  · exact (Survey.mem_generatedTypes _ settings).mpr (.inr ⟨base, marked, _, rfl, .inl rfl⟩)
  · change base ∈ ["String", base]
    simp

end Document

end PagedSchema
