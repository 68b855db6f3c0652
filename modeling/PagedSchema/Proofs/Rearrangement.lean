/-
Documents with the same definitions in another order. Paging ends alike on both, and where it
succeeds it makes the same of each definition and generates the same types.
-/
import PagedSchema.Proofs.Paginating

namespace PagedSchema.Document

section Rearranged

variable {xs ys : Document} (same : xs.definitions.Perm ys.definitions)

include same

theorem outputFields_perm : xs.outputFields.Perm ys.outputFields := by
  rw [outputFields_eq_flatMap, outputFields_eq_flatMap]
  exact same.flatMap_right _

theorem markedDeclarations_perm (marker : String) :
    (xs.markedDeclarations marker).Perm (ys.markedDeclarations marker) :=
  (outputFields_perm same).filter _

theorem markedBases_perm (marker : String) :
    (xs.markedBases marker).Perm (ys.markedBases marker) :=
  (markedDeclarations_perm same marker).map _

theorem typeNames_perm : xs.typeNames.Perm ys.typeNames := same.filterMap _

theorem definedTypes_perm : xs.definedTypes.Perm ys.definedTypes := same.filterMap _

theorem collides_iff_of_perm (marker : String) : xs.Collides marker ↔ ys.Collides marker := by
  unfold Collides
  simp only [(markedBases_perm same marker).mem_iff, (typeNames_perm same).mem_iff]

theorem conflicts_iff_of_perm (marker : String) : xs.Conflicts marker ↔ ys.Conflicts marker := by
  unfold Conflicts
  simp only [(markedDeclarations_perm same marker).mem_iff]

theorem mem_generatedNames_iff_of_perm (marker name : String) :
    name ∈ xs.generatedNames marker ↔ name ∈ ys.generatedNames marker := by
  unfold generatedNames
  simp only [List.mem_append, List.mem_flatMap, (typeNames_perm same).mem_iff,
    (markedBases_perm same marker).mem_iff]

theorem wellFormedWith_of_perm {given given' : List String} (names : given ⊆ given')
    (wellFormed : xs.WellFormedWith given) : ys.WellFormedWith given' := by
  have directives : xs.directiveNames.Perm ys.directiveNames := same.filterMap _
  have fields : xs.coordinates.Perm ys.coordinates := same.flatMap_right _
  have extended : xs.extendedTypes.Perm ys.extendedTypes := same.filterMap _
  have referred : xs.references.Perm ys.references := same.flatMap_right _
  refine wellFormed.transfer (definedTypes_perm same) directives.nodup_iff.mp fields ?_
    extended.symm.subset referred.symm.subset names
  intro entry member
  exact wellFormed.argumentsOnce entry ((outputFields_perm same).mem_iff.mpr member)

theorem verdict_of_paginate_perm (settings : Settings) :
    Verdict.of (xs.paginate settings) = Verdict.of (ys.paginate settings) := by
  have names := mem_generatedNames_iff_of_perm same settings.marker
  apply verdict_of_paginate_congr
  · exact (definedTypes_perm same).nodup_iff
  · exact collides_iff_of_perm same settings.marker
  · exact conflicts_iff_of_perm same settings.marker
  · constructor
    · exact wellFormedWith_of_perm same fun name => (names name).mp
    · exact wellFormedWith_of_perm same.symm fun name => (names name).mpr

/-- Hints are the greatest of their readings, so the order of these does not matter. -/
theorem get?_hints_perm (settings : Settings) (base : String) :
    (xs.survey settings).hints.get? base = (ys.survey settings).hints.get? base := by
  change (Table.ofGreatest (xs.hintReadings settings.cacheHints)).get? base =
    (Table.ofGreatest (ys.hintReadings settings.cacheHints)).get? base
  cases settings.cacheHints with
  | none => rfl
  | some hints =>
      have readings : (xs.hintReadings (some hints)).Perm (ys.hintReadings (some hints)) := by
        rw [hintReadings_some, hintReadings_some]
        exact (same.filterMap _).flatMap_right _
      rw [Table.get?_ofGreatest, Table.get?_ofGreatest]
      apply max?_eq_of_mem_iff
      intro n
      rw [mem_valuesOf, mem_valuesOf]
      exact readings.mem_iff

theorem baseTypes_perm (settings : Settings) :
    (xs.survey settings).baseTypes.Perm (ys.survey settings).baseTypes := by
  rw [List.perm_ext_iff_of_nodup (Survey.nodup_baseTypes _) (Survey.nodup_baseTypes _)]
  intro base
  rw [mem_baseTypes_iff, mem_baseTypes_iff]
  exact (markedBases_perm same settings.marker).mem_iff

theorem generatedTypes_perm (settings : Settings) :
    ((xs.survey settings).generatedTypes settings).Perm
      ((ys.survey settings).generatedTypes settings) := by
  have pageInfo : (xs.survey settings).hasType pageInfoName =
      (ys.survey settings).hasType pageInfoName := by
    rw [Bool.eq_iff_iff, hasType_iff, hasType_iff]
    exact (typeNames_perm same).mem_iff
  have hints : (fun base => (base, (xs.survey settings).hints.get? base)) =
      fun base => (base, (ys.survey settings).hints.get? base) := by
    funext base
    rw [get?_hints_perm same settings base]
  unfold Survey.generatedTypes Survey.specs
  rw [pageInfo, hints]
  exact (((baseTypes_perm same settings).map _).flatMap_right _).append_left _

theorem markerDeclarations_perm (marker : String) :
    ys.markerDeclarations marker = xs.markerDeclarations marker := by
  have declared : xs.directiveNames.Perm ys.directiveNames := same.filterMap _
  have defines : ys.definesDirective marker = xs.definesDirective marker := by
    rw [Bool.eq_iff_iff, definesDirective_iff, definesDirective_iff]
    exact declared.symm.mem_iff
  unfold markerDeclarations
  rw [defines]

/-- The order of definitions decides in which order types are generated and fields are paged, and
about nothing else. -/
theorem paginate_perm (settings : Settings) :
    Verdict.of (xs.paginate settings) = Verdict.of (ys.paginate settings) ∧
    ∀ p q, xs.paginate settings = .ok p → ys.paginate settings = .ok q →
      p.connected.Perm q.connected ∧
      ∃ types types', (xs.survey settings).generate settings = .ok types ∧
        (ys.survey settings).generate settings = .ok types' ∧
        types.Perm types' ∧
        p.document = ofGenerated types ++ xs.markerDeclarations settings.marker ++
          xs.mapFields (fun _ f => f.paged settings.marker) ∧
        q.document = ofGenerated types' ++ xs.markerDeclarations settings.marker ++
          ys.mapFields (fun _ f => f.paged settings.marker) := by
  refine ⟨verdict_of_paginate_perm same settings, ?_⟩
  intro p q left right
  obtain ⟨free, -, wellFormed⟩ := of_paginate_eq_ok left
  obtain ⟨free', -, wellFormed'⟩ := of_paginate_eq_ok right
  rw [eq_of_paginate_eq_ok left, eq_of_paginate_eq_ok right]
  constructor
  · exact (((outputFields_perm same).filter _).map _).map _
  · refine ⟨_, _, Survey.generate_of_free _ settings ((xs.free_survey_iff settings).mpr free),
      Survey.generate_of_free _ settings ((ys.free_survey_iff settings).mpr free'),
      generatedTypes_perm same settings, ?_, ?_⟩
    · rw [connected_eq_mapFields wellFormed.fieldsOnce]
      rfl
    · rw [connected_eq_mapFields wellFormed'.fieldsOnce, ← markerDeclarations_perm same]
      rfl

end Rearranged

/-- Two lists with different hints, each in a definition of its own. -/
def listsSchema : List Definition :=
  [.type ⟨.definition none, ⟨1, 1⟩, "Query", [], .output .object []
    [⟨⟨1, 14⟩, none, "users", [], .list (.named "User"),
      [⟨⟨1, 28⟩, "connection", []⟩, ⟨⟨1, 40⟩, "cacheControl", [("maxAge", .int 30)]⟩]⟩]⟩,
   .type ⟨.extension, ⟨2, 8⟩, "Query", [], .output .object []
    [⟨⟨2, 21⟩, none, "posts", [], .list (.named "Post"), [⟨⟨2, 35⟩, "connection", []⟩]⟩]⟩,
   .type ⟨.definition none, ⟨3, 1⟩, "User",
    [⟨⟨3, 11⟩, "cacheControl", [("maxAge", .int 60)]⟩], .output .object []
    [⟨⟨3, 40⟩, none, "id", [], .nonNull (.named "ID"), []⟩]⟩,
   .type ⟨.definition none, ⟨4, 1⟩, "Post", [], .output .object []
    [⟨⟨4, 13⟩, none, "author", [], .named "User", []⟩]⟩]

theorem paginate_perm_listsSchema :
    ∃ p q, (ofSource "a.graphql" listsSchema).paginate (Settings.default.withCacheHints .default) =
        .ok p ∧
      (ofSource "b.graphql" listsSchema.reverse).paginate
        (Settings.default.withCacheHints .default) = .ok q ∧
      p.generated = ["PageInfo", "UserEdge", "UserConnection", "PostEdge", "PostConnection"] ∧
      q.generated = ["PageInfo", "PostEdge", "PostConnection", "UserEdge", "UserConnection"] ∧
      p.connected.Perm q.connected ∧
      ∃ types types', types.Perm types' ∧
        p.document = ofGenerated types ++ [⟨.generated, .directive (markerDecl "connection")⟩] ++
          (ofSource "a.graphql" listsSchema).mapFields (fun _ f => f.paged "connection") ∧
        q.document = ofGenerated types' ++ [⟨.generated, .directive (markerDecl "connection")⟩] ++
          (ofSource "b.graphql" listsSchema.reverse).mapFields
            (fun _ f => f.paged "connection") := by
  have same : (ofSource "a.graphql" listsSchema).definitions.Perm
      (ofSource "b.graphql" listsSchema.reverse).definitions :=
    (List.reverse_perm listsSchema).symm
  have left : (ofSource "a.graphql" listsSchema).paginate
      (Settings.default.withCacheHints .default) = .ok _ := rfl
  have right : (ofSource "b.graphql" listsSchema.reverse).paginate
      (Settings.default.withCacheHints .default) = .ok _ := rfl
  obtain ⟨connected, types, types', -, -, generated, first, second⟩ :=
    (paginate_perm same (Settings.default.withCacheHints .default)).2 _ _ left right
  exact ⟨_, _, left, right, rfl, rfl, connected, types, types', generated, first, second⟩

end PagedSchema.Document
