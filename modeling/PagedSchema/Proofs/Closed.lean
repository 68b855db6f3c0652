/-
Paged schemas are closed and unambiguous: what a schema names it has, what it has it has once, and
what paging adds stands beside what the schema had before.
-/
import PagedSchema.Proofs.Settled

namespace PagedSchema

/-- A paged schema against the document and the marker that it was made from. -/
structure Paged.Closed (p : Paged) (doc : Document) (marker : String) : Prop where
  typesOnce : ∀ name, p.document.definedTypes.count name ≤ 1
  markerOnce : p.document.directiveNames.count marker = 1
  pageInfoOnce : p.document.definedTypes.count "PageInfo" = 1
  pairsOnce : ∀ entry ∈ doc.outputFields, hasDirective entry.2.directives marker →
    p.document.definedTypes.count (entry.2.type.base ++ "Edge") = 1 ∧
      p.document.definedTypes.count (entry.2.type.base ++ "Connection") = 1
  generatedOnce : p.generated.Nodup
  generatedNew : ∀ name ∈ p.generated, name ∉ doc.typeNames
  generatedApart : ∀ s ∈ p.document, s.origin ≠ .generated →
    ∀ name ∈ p.generated, s.definition.typeName? ≠ some name
  refersDefined : ∀ name ∈ p.document.references,
    isBuiltinScalar name ∨ name ∈ p.document.definedTypes
  extendsDefined : ∀ name ∈ p.document.extendedTypes, name ∈ p.document.definedTypes
  fieldsOnce : p.document.coordinates.Nodup
  connectedThere : ∀ c ∈ p.connected, ∃ f, (c.type, f) ∈ p.document.outputFields ∧ f.name = c.field
  pagesOnce : ∀ entry ∈ p.document.outputFields, ⟨entry.1, entry.2.name⟩ ∈ p.connected →
    ∀ name ∈ ["after", "first", "before", "last"],
      (entry.2.arguments.map (·.name)).count name = 1

namespace Document

variable {doc : Document} {settings : Settings}

theorem origin_of_mem_front {s : Sourced} (member : s ∈ doc.front settings) :
    s.origin = .generated := by
  rcases List.mem_append.mp member with type | declaration
  · obtain ⟨d, -, rfl⟩ := List.mem_map.mp type
    rfl
  · unfold markerDeclarations at declaration
    split at declaration
    · cases declaration
    · rw [List.mem_singleton.mp declaration]

/-- What is not generated names the types that the document names. -/
theorem mem_typeNames_of_mem_connected {s : Sourced} {name : String}
    (member : s ∈ doc.connected settings) (named : s.definition.typeName? = some name) :
    name ∈ doc.typeNames := by
  rw [← typeNames_mapFields ((doc.survey settings).pageField settings.marker) doc]
  exact List.mem_filterMap.mpr ⟨s.definition, List.mem_map_of_mem member, named⟩

theorem exists_of_mem_markedCoordinates {marker : String} {c : Coordinate}
    (marked : c ∈ (doc.markedFields marker).map (·.1)) :
    ∃ entry ∈ doc.outputFields, hasDirective entry.2.directives marker ∧
      (⟨entry.1, entry.2.name⟩ : Coordinate) = c := by
  rw [markedFields, List.map_map] at marked
  obtain ⟨entry, carries, same⟩ := List.mem_map.mp marked
  obtain ⟨present, carries⟩ := List.mem_filter.mp carries
  exact ⟨entry, present, carries, same⟩

/-- Where no field is declared twice, what has the coordinate of a marked field is that field. -/
theorem marked_of_coordinate_mem {marker : String} (once : doc.coordinates.Nodup)
    {entry : String × Field} (member : entry ∈ doc.outputFields)
    (marked : (⟨entry.1, entry.2.name⟩ : Coordinate) ∈ (doc.markedFields marker).map (·.1)) :
    hasDirective entry.2.directives marker := by
  obtain ⟨other, present, carries, same⟩ := exists_of_mem_markedCoordinates marked
  have fieldsOnce := once.sublist doc.coordinates_of_outputFields_sublist
  rw [← List.inj_on_of_nodup_map fieldsOnce present member same]
  exact carries

theorem pair_subset_definedTypes_paged {entry : String × Field}
    (declared : entry ∈ doc.outputFields)
    (marked : hasDirective entry.2.directives settings.marker) :
    pairNames entry.2.type.base ⊆ definedTypes (doc.front settings ++ doc.connected settings) := by
  have known : entry.2.type.base ∈ (doc.survey settings).baseTypes := by
    rw [mem_baseTypes_iff]
    exact List.mem_map_of_mem (doc.mem_markedDeclarations.mpr ⟨declared, marked⟩)
  intro name pair
  rw [definedTypes_paged]
  exact List.mem_append_left _
    ((Survey.mem_generatedNames _).mpr (.inr ⟨entry.2.type.base, known, pair⟩))

theorem defined_of_mem_typeNames (extended : ∀ name ∈ doc.extendedTypes, name ∈ doc.definedTypes)
    {name : String} (named : name ∈ doc.typeNames) : name ∈ doc.definedTypes := by
  rcases (doc.mem_typeNames_iff name).mp named with defined | extension
  · exact defined
  · exact extended name extension

theorem exists_connection_of_marked {c : Coordinate}
    (marked : c ∈ (doc.markedFields settings.marker).map (·.1)) :
    ∃ f, (c.type, f) ∈ outputFields (doc.front settings ++ doc.connected settings) ∧
      f.name = c.field := by
  obtain ⟨⟨type, f⟩, declared, -, rfl⟩ := exists_of_mem_markedCoordinates marked
  refine ⟨(doc.survey settings).pageField settings.marker type f, ?_,
    Survey.pageField_name _ _ _ _⟩
  rw [outputFields_append, connected, outputFields_mapFields]
  exact List.mem_append_right _ (List.mem_map_of_mem declared)

/-- A connection has each pagination argument once, if it has no argument twice. -/
theorem count_arguments_pageField {type : String} {f : Field} {name : String}
    (member : (type, f) ∈ doc.outputFields) (marked : hasDirective f.directives settings.marker)
    (once : (((doc.survey settings).pageField settings.marker type f).arguments.map
      (·.name)).Nodup)
    (pagination : name ∈ paginationNames) :
    (((doc.survey settings).pageField settings.marker type f).arguments.map (·.name)).count
      name = 1 := by
  apply List.count_eq_one_of_mem once
  obtain ⟨base, -, paged⟩ := exists_pageField_of_marked member marked
  rw [paged]
  change name ∈ (f.arguments ++ paginationInputs).map (·.name)
  rw [List.map_append, map_name_paginationInputs]
  exact List.mem_append_right _ pagination

section Closed

variable (free : ¬ doc.Collides settings.marker)

include free

theorem not_mem_typeNames_of_generatedNames {name : String}
    (generated : name ∈ (doc.survey settings).generatedNames) : name ∉ doc.typeNames :=
  doc.not_mem_typeNames_of_generated settings ((doc.free_survey_iff settings).mpr free) generated

/-- A field of the paged document with the coordinate of a marked field was that field. -/
theorem exists_marked_of_coordinate_paged (once : doc.coordinates.Nodup) {entry : String × Field}
    (member : entry ∈ outputFields (doc.front settings ++ doc.connected settings))
    (connected : (⟨entry.1, entry.2.name⟩ : Coordinate) ∈
      (doc.markedFields settings.marker).map (·.1)) :
    ∃ f, (entry.1, f) ∈ doc.outputFields ∧ hasDirective f.directives settings.marker ∧
      entry.2 = (doc.survey settings).pageField settings.marker entry.1 f := by
  rw [outputFields_append, List.mem_append] at member
  rcases member with new | old
  · have generated := doc.name_mem_of_outputFields_front settings new
    have named : entry.1 ∈ doc.typeNames := by
      obtain ⟨other, declared, -, same⟩ := exists_of_mem_markedCoordinates connected
      rw [← (Coordinate.mk.inj same).1]
      exact doc.type_mem_typeNames_of_coordinates (doc.mem_coordinates_of_outputFields declared)
    exact absurd named (not_mem_typeNames_of_generatedNames free generated)
  · rw [Document.connected, outputFields_mapFields] at old
    obtain ⟨⟨type, f⟩, declared, rfl⟩ := List.mem_map.mp old
    simp only [Survey.pageField_name] at connected
    exact ⟨f, declared, marked_of_coordinate_mem once declared connected, rfl⟩

end Closed

theorem closed_of_paginate_eq_ok {p : Paged} (paged : doc.paginate settings = .ok p) :
    p.Closed doc settings.marker := by
  obtain ⟨free, clear, given⟩ := of_paginate_eq_ok paged
  have wellFormed : WellFormed (doc.front settings ++ doc.connected settings) :=
    (wellFormed_paged_iff ((doc.free_survey_iff settings).mpr free) clear).mpr given
  have new : ∀ name ∈ (doc.survey settings).generatedNames, name ∉ doc.typeNames :=
    fun name generated => not_mem_typeNames_of_generatedNames free generated
  have once : ∀ {name}, name ∈ definedTypes (doc.front settings ++ doc.connected settings) →
      (definedTypes (doc.front settings ++ doc.connected settings)).count name = 1 :=
    fun defined => List.count_eq_one_of_mem wellFormed.typesOnce defined
  rw [eq_of_paginate_eq_ok paged]
  constructor
  case typesOnce => exact List.nodup_iff_count_le_one.mp wellFormed.typesOnce
  case markerOnce =>
    exact List.count_eq_one_of_mem wellFormed.directivesOnce marker_mem_directiveNames_paged
  case pageInfoOnce =>
    exact once (defined_of_mem_typeNames wellFormed.extendsDefined pageInfoName_mem_typeNames_paged)
  case pairsOnce =>
    intro entry declared marked
    have pair := pair_subset_definedTypes_paged declared marked
    exact ⟨once (pair (mem_pairNames.mpr (.inl rfl))), once (pair (mem_pairNames.mpr (.inr rfl)))⟩
  case generatedOnce => exact Survey.nodup_generatedNames _
  case generatedNew => exact new
  case generatedApart =>
    intro s member loaded name generated named
    rcases List.mem_append.mp member with front | old
    · exact loaded (origin_of_mem_front front)
    · exact new name generated (mem_typeNames_of_mem_connected old named)
  case refersDefined =>
    intro name referred
    exact (wellFormed.refersDefined name referred).imp_right (·.resolve_right List.not_mem_nil)
  case extendsDefined => exact wellFormed.extendsDefined
  case fieldsOnce => exact wellFormed.fieldsOnce
  case connectedThere => exact fun _ marked => exists_connection_of_marked marked
  case pagesOnce =>
    intro entry member connected name pagination
    have arguments := wellFormed.argumentsOnce entry member
    obtain ⟨f, declared, marked, same⟩ :=
      exists_marked_of_coordinate_paged free given.fieldsOnce member connected
    rw [same] at arguments ⊢
    exact count_arguments_pageField declared marked arguments pagination

/-- Posts and their edges are both paged, so a generated type is itself a base type. -/
def edgesSchema : Document :=
  ofSource "schema.graphql"
    [.type ⟨.definition none, ⟨1, 1⟩, "Query", [], .output .object []
      [⟨⟨1, 14⟩, none, "posts", [], .list (.named "Post"), [⟨⟨1, 28⟩, "connection", []⟩]⟩]⟩,
     .type ⟨.definition none, ⟨2, 1⟩, "Post", [], .output .interface []
      [⟨⟨2, 18⟩, none, "id", [], .nonNull (.named "ID"), []⟩]⟩,
     .type ⟨.extension, ⟨3, 8⟩, "Post", [], .output .interface []
      [⟨⟨3, 25⟩, none, "replies", [], .named "PostEdge", [⟨⟨3, 43⟩, "connection", []⟩]⟩]⟩]

theorem closed_edgesSchema :
    ∃ p, edgesSchema.paginate .default = .ok p ∧
      p.generated =
        ["PageInfo", "PostEdge", "PostConnection", "PostEdgeEdge", "PostEdgeConnection"] ∧
      p.connected = [⟨"Query", "posts"⟩, ⟨"Post", "replies"⟩] ∧
      p.Closed edgesSchema "connection" := by
  have paged : edgesSchema.paginate .default = .ok _ := rfl
  exact ⟨_, paged, rfl, rfl, closed_of_paginate_eq_ok paged⟩

end Document

end PagedSchema
