/-
The document that paging makes is well formed exactly if the document itself is, once the generated
names are given to it.
-/
import PagedSchema.Proofs.Front

namespace PagedSchema

theorem map_name_paginationInputs : paginationInputs.map (·.name) = paginationNames := rfl

theorem isBuiltinScalar_of_paginationInputs {name : String}
    (member : name ∈ paginationInputs.map (·.type.base)) : isBuiltinScalar name := by
  change name ∈ ["String", "Int", "String", "Int"] at member
  simp only [List.mem_cons, List.not_mem_nil, or_false] at member
  rcases member with rfl | rfl | rfl | rfl <;> rfl

/-- Pagination arguments repeat nothing on a field that has none. -/
theorem Field.nodup_arguments_toConnection {f : Field} (base marker : String)
    (clear : ∀ a ∈ f.arguments, ¬ isPaginationArgument a.name) :
    ((f.toConnection base marker).arguments.map (·.name)).Nodup ↔
      (f.arguments.map (·.name)).Nodup := by
  change ((f.arguments ++ paginationInputs).map (·.name)).Nodup ↔ _
  rw [List.map_append, List.nodup_append', map_name_paginationInputs]
  constructor
  · exact fun h => h.1
  · intro once
    refine ⟨once, by decide, ?_⟩
    intro name own added
    obtain ⟨a, present, rfl⟩ := List.mem_map.mp own
    exact clear a present ((isPaginationArgument_iff _).mpr added)

theorem Field.mem_references_toConnection (f : Field) (base marker name : String) :
    name ∈ (f.toConnection base marker).references ↔
      name = connectionName base ∨ name ∈ f.arguments.map (·.type.base) ∨
        name ∈ paginationInputs.map (·.type.base) := by
  change name ∈ connectionName base :: (f.arguments ++ paginationInputs).map (·.type.base) ↔ _
  rw [List.mem_cons, List.map_append, List.mem_append]

namespace Document

variable {doc : Document} {settings : Settings}

theorem pageField_of_not_marked {type : String} {f : Field}
    (plain : ¬ hasDirective f.directives settings.marker) :
    (doc.survey settings).pageField settings.marker type f = f := by
  unfold Survey.pageField
  rw [selected?_of_not_marked _ plain]

theorem exists_pageField_of_marked {type : String} {f : Field}
    (member : (type, f) ∈ doc.outputFields) (marked : hasDirective f.directives settings.marker) :
    ∃ base ∈ (doc.survey settings).baseTypes,
      (doc.survey settings).pageField settings.marker type f =
        f.toConnection base settings.marker := by
  obtain ⟨base, known, found⟩ := exists_selected? member marked
  refine ⟨base, (doc.mem_baseTypes_iff settings base).mpr known, ?_⟩
  unfold Survey.pageField
  rw [found]

theorem nodup_arguments_pageField (clear : ¬ doc.Conflicts settings.marker) {type : String}
    {f : Field} (member : (type, f) ∈ doc.outputFields) :
    (((doc.survey settings).pageField settings.marker type f).arguments.map (·.name)).Nodup ↔
      (f.arguments.map (·.name)).Nodup := by
  by_cases marked : hasDirective f.directives settings.marker
  · obtain ⟨base, -, paged⟩ := exists_pageField_of_marked member marked
    rw [paged]
    apply Field.nodup_arguments_toConnection
    exact passable_of_not_conflicts clear member ((selected?_isSome_iff member).mpr marked)
  · rw [pageField_of_not_marked marked]

theorem definedTypes_paged : definedTypes (doc.front settings ++ doc.connected settings) =
    (doc.survey settings).generatedNames ++ doc.definedTypes := by
  rw [definedTypes_append, definedTypes_front, connected, definedTypes_mapFields]

theorem nodup_definedTypes_paged (free : (doc.survey settings).Free) :
    (definedTypes (doc.front settings ++ doc.connected settings)).Nodup ↔
      doc.definedTypes.Nodup := by
  rw [definedTypes_paged, List.nodup_append']
  constructor
  · exact fun h => h.2.1
  · intro once
    refine ⟨Survey.nodup_generatedNames _, once, ?_⟩
    exact fun _ generated => doc.not_mem_definedTypes_of_generated settings free generated

theorem nodup_directiveNames_paged :
    (directiveNames (doc.front settings ++ doc.connected settings)).Nodup ↔
      doc.directiveNames.Nodup := by
  rw [directiveNames_append, directiveNames_front, connected, directiveNames_mapFields]
  split
  · rfl
  · rename_i undeclared
    rw [List.singleton_append, List.nodup_cons]
    exact and_iff_right undeclared

theorem nodup_coordinates_paged (free : (doc.survey settings).Free) :
    (coordinates (doc.front settings ++ doc.connected settings)).Nodup ↔
      doc.coordinates.Nodup := by
  rw [coordinates_append, connected,
    coordinates_mapFields (Survey.pageField_name _ settings.marker), List.nodup_append']
  constructor
  · exact fun h => h.2.1
  · intro once
    refine ⟨nodup_coordinates_front, once, ?_⟩
    intro field new old
    exact doc.not_mem_typeNames_of_generated settings free
      (type_mem_generatedNames_of_coordinates_front new)
      (doc.type_mem_typeNames_of_coordinates old)

theorem nodup_arguments_paged (clear : ¬ doc.Conflicts settings.marker) :
    (∀ entry ∈ outputFields (doc.front settings ++ doc.connected settings),
        (entry.2.arguments.map (·.name)).Nodup) ↔
      ∀ entry ∈ doc.outputFields, (entry.2.arguments.map (·.name)).Nodup := by
  rw [outputFields_append, List.forall_mem_append, connected, outputFields_mapFields,
    List.forall_mem_map]
  constructor
  · intro h entry member
    exact (nodup_arguments_pageField clear member).mp (h.2 entry member)
  · intro h
    constructor
    · intro entry member
      rw [arguments_of_outputFields_front member]
      exact List.nodup_nil
    · intro entry member
      exact (nodup_arguments_pageField clear member).mpr (h entry member)

theorem extended_paged (free : (doc.survey settings).Free) :
    (∀ name ∈ extendedTypes (doc.front settings ++ doc.connected settings),
        name ∈ definedTypes (doc.front settings ++ doc.connected settings)) ↔
      ∀ name ∈ doc.extendedTypes, name ∈ doc.definedTypes := by
  rw [extendedTypes_append, extendedTypes_front, connected, extendedTypes_mapFields,
    ← connected, definedTypes_paged, List.nil_append]
  constructor
  · intro h name extended
    rcases List.mem_append.mp (h name extended) with generated | defined
    · exact absurd ((doc.mem_typeNames_iff name).mpr (.inr extended))
        (doc.not_mem_typeNames_of_generated settings free generated)
    · exact defined
  · intro h name extended
    exact List.mem_append_right _ (h name extended)

/-- Whatever the document refers to is still referred to, a marked field's own type by the edge
that stands for it. -/
theorem references_subset_paged :
    doc.references ⊆ references (doc.front settings ++ doc.connected settings) := by
  intro name member
  rw [references_append, List.mem_append, connected, mem_references_iff (mapFields _ _),
    plainReferences_mapFields, outputFields_mapFields]
  rcases (doc.mem_references_iff name).mp member with plain | ⟨⟨type, f⟩, declared, refers⟩
  · exact .inr (.inl plain)
  · by_cases marked : hasDirective f.directives settings.marker
    · rcases List.mem_cons.mp refers with rfl | argument
      · left
        apply mem_references_front_of_baseTypes
        rw [mem_baseTypes_iff]
        exact List.mem_map_of_mem (doc.mem_markedDeclarations.mpr ⟨declared, marked⟩)
      · obtain ⟨base, -, paged⟩ := exists_pageField_of_marked declared marked
        right; right
        refine ⟨_, List.mem_map_of_mem declared, ?_⟩
        rw [paged, Field.mem_references_toConnection]
        exact .inr (.inl argument)
    · right; right
      refine ⟨_, List.mem_map_of_mem declared, ?_⟩
      rw [pageField_of_not_marked marked]
      exact refers

/-- What is referred to after paging is a scalar, generated, or what the document referred to or
named before. -/
theorem mem_references_paged {name : String}
    (member : name ∈ references (doc.front settings ++ doc.connected settings)) :
    isBuiltinScalar name ∨ name ∈ (doc.survey settings).generatedNames ∨
      name ∈ doc.typeNames ∨ name ∈ doc.references := by
  rw [references_append, List.mem_append, connected, mem_references_iff (mapFields _ _),
    plainReferences_mapFields, outputFields_mapFields] at member
  rcases member with front | plain | ⟨entry, mapped, refers⟩
  · rw [references_front] at front
    obtain ⟨d, generated, refers⟩ := List.mem_flatMap.mp front
    rcases Survey.references_of_generated generated refers with
      scalar | ⟨rfl, -⟩ | ⟨base, marked, rfl | rfl⟩
    · exact .inl scalar
    · by_cases named : pageInfoName ∈ doc.typeNames
      · exact .inr (.inr (.inl named))
      · refine .inr (.inl ?_)
        rw [Survey.pageInfoName_mem_generatedNames_iff, hasType_iff]
        exact named
    · refine .inr (.inr (.inr ?_))
      rw [mem_baseTypes_iff] at marked
      obtain ⟨⟨type, f⟩, declared, rfl⟩ := List.mem_map.mp marked
      exact (doc.mem_references_iff _).mpr (.inr ⟨(type, f),
        (doc.mem_markedDeclarations.mp declared).1, List.mem_cons_self⟩)
    · exact .inr (.inl (Survey.edgeName_mem_generatedNames _ marked))
  · exact .inr (.inr (.inr ((doc.mem_references_iff name).mpr (.inl plain))))
  · obtain ⟨⟨type, f⟩, declared, rfl⟩ := List.mem_map.mp mapped
    by_cases marked : hasDirective f.directives settings.marker
    · obtain ⟨base, known, paged⟩ := exists_pageField_of_marked declared marked
      simp only [paged, Field.mem_references_toConnection] at refers
      rcases refers with rfl | own | added
      · exact .inr (.inl (Survey.connectionName_mem_generatedNames _ known))
      · exact .inr (.inr (.inr ((doc.mem_references_iff name).mpr
          (.inr ⟨(type, f), declared, List.mem_cons_of_mem _ own⟩))))
      · exact .inl (isBuiltinScalar_of_paginationInputs added)
    · simp only [pageField_of_not_marked marked] at refers
      exact .inr (.inr (.inr ((doc.mem_references_iff name).mpr
        (.inr ⟨(type, f), declared, refers⟩))))

theorem wellFormed_paged_iff (free : (doc.survey settings).Free)
    (clear : ¬ doc.Conflicts settings.marker) :
    WellFormed (doc.front settings ++ doc.connected settings) ↔
      doc.WellFormedWith (doc.generatedNames settings.marker) := by
  constructor
  · rintro ⟨types, directives, fields, arguments, extended, refers⟩
    refine ⟨(nodup_definedTypes_paged free).mp types, nodup_directiveNames_paged.mp directives,
      (nodup_coordinates_paged free).mp fields, (nodup_arguments_paged clear).mp arguments,
      (extended_paged free).mp extended, ?_⟩
    intro name member
    rcases refers name (references_subset_paged member) with scalar | defined | impossible
    · exact .inl scalar
    · rw [definedTypes_paged, List.mem_append, mem_generatedNames_survey] at defined
      exact .inr defined.symm
    · cases impossible
  · rintro ⟨types, directives, fields, arguments, extended, refers⟩
    refine ⟨(nodup_definedTypes_paged free).mpr types, nodup_directiveNames_paged.mpr directives,
      (nodup_coordinates_paged free).mpr fields, (nodup_arguments_paged clear).mpr arguments,
      (extended_paged free).mpr extended, ?_⟩
    intro name member
    rw [definedTypes_paged, List.mem_append]
    rcases mem_references_paged member with scalar | generated | named | referred
    · exact .inl scalar
    · exact .inr (.inl (.inl generated))
    -- Only page information gets here, and it is well formed only if it is not just extended.
    · rcases (doc.mem_typeNames_iff name).mp named with defined | extension
      · exact .inr (.inl (.inr defined))
      · exact .inr (.inl (.inr (extended name extension)))
    · rcases refers name referred with scalar | defined | generated
      · exact .inl scalar
      · exact .inr (.inl (.inr defined))
      · exact .inr (.inl (.inl ((doc.mem_generatedNames_survey settings).mpr generated)))

end Document

end PagedSchema
