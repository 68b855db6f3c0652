/-
The fields of a paged schema that carry the marker. Fields of the document lose it. Only where cache
hints are written with the marker itself do generated fields have it, as their hint.
-/
import PagedSchema.Proofs.Closed

namespace PagedSchema

/-- Of the generated fields the edges and the page information of a connection have the hint of its
base type. The others have no directive. -/
theorem Survey.directives_of_generated {survey : Survey} {settings : Settings} {d : TypeDecl}
    (generated : d ∈ survey.generatedTypes settings) {f : Field} (member : f ∈ d.outputFields) :
    (f.directives = [] ∧
        ∀ base, d.name = connectionName base → f.name ≠ "edges" ∧ f.name ≠ "pageInfo") ∨
      ∃ base ∈ survey.baseTypes, d.name = connectionName base ∧
        (f.name = "edges" ∨ f.name = "pageInfo") ∧
        f.directives = Generated.hintDirective settings (survey.hints.get? base) := by
  rcases (survey.mem_generatedTypes settings).mp generated with
    ⟨rfl, -⟩ | ⟨base, marked, hint, rfl, rfl | rfl⟩
  · left
    constructor
    · simp only [Generated.pageInfo, Generated.objectType, TypeDecl.outputFields, List.mem_cons,
        List.not_mem_nil, or_false] at member
      rcases member with rfl | rfl | rfl | rfl <;> rfl
    · exact fun base same => absurd same.symm (connectionName_ne_pageInfoName base)
  · left
    constructor
    · simp only [Generated.edge, Generated.objectType, TypeDecl.outputFields, List.mem_cons,
        List.not_mem_nil, or_false] at member
      rcases member with rfl | rfl <;> rfl
    · exact fun other same => absurd same (edgeName_ne_connectionName base other)
  · simp only [Generated.connection, Generated.objectType, TypeDecl.outputFields, List.mem_cons,
      List.not_mem_nil, or_false] at member
    rcases member with rfl | rfl | rfl
    · left
      refine ⟨rfl, fun _ _ => ?_⟩
      change "totalCount" ≠ "edges" ∧ "totalCount" ≠ "pageInfo"
      decide
    · exact .inr ⟨base, marked, rfl, .inl rfl, rfl⟩
    · exact .inr ⟨base, marked, rfl, .inr rfl, rfl⟩

namespace Document

variable {doc : Document} {settings : Settings}

def HintIsMark (doc : Document) (settings : Settings) (type field : String) : Prop :=
  ∃ hints base n, settings.cacheHints = some hints ∧ hints.directive = settings.marker ∧
    base ∈ doc.markedBases settings.marker ∧ (doc.survey settings).hints.get? base = some n ∧
    type = base ++ "Connection" ∧ (field = "edges" ∨ field = "pageInfo")

theorem marked_front_iff {entry : String × Field}
    (member : entry ∈ (doc.front settings).outputFields) :
    hasDirective entry.2.directives settings.marker ↔
      doc.HintIsMark settings entry.1 entry.2.name := by
  obtain ⟨d, generated, f, present, rfl⟩ := doc.exists_of_mem_outputFields_front settings member
  rcases Survey.directives_of_generated generated present with
    ⟨bare, other⟩ | ⟨base, marked, named, field, hinted⟩
  · constructor
    · intro carries
      simp only [bare] at carries
      cases carries
    · rintro ⟨-, base, -, -, -, -, -, named, edges | pageInfo⟩
      · exact absurd edges (other base named).1
      · exact absurd pageInfo (other base named).2
  · simp only [hinted, Generated.hasDirective_hintDirective_iff]
    constructor
    · rintro ⟨hints, n, used, known, same⟩
      exact ⟨hints, base, n, used, same, (doc.mem_baseTypes_iff settings base).mp marked, known,
        named, field⟩
    · rintro ⟨hints, other, n, used, same, -, known, named', -⟩
      rw [connectionName_injective (named.symm.trans named')]
      exact ⟨hints, n, used, known, same⟩

theorem type_mem_typeNames_of_outputFields {entry : String × Field}
    (member : entry ∈ doc.outputFields) : entry.1 ∈ doc.typeNames :=
  doc.type_mem_typeNames_of_coordinates (doc.mem_coordinates_of_outputFields member)

/-- No field of the document has the marker after paging. A generated field has it exactly if it is
its hint. -/
theorem marked_iff_of_paginate_eq_ok {p : Paged} (paged : doc.paginate settings = .ok p) :
    (∀ s ∈ p.document, s.origin ≠ .generated →
      ∀ entry ∈ s.definition.outputFields, ¬ hasDirective entry.2.directives settings.marker) ∧
    ∀ entry ∈ p.document.outputFields,
      hasDirective entry.2.directives settings.marker ↔
        doc.HintIsMark settings entry.1 entry.2.name := by
  obtain ⟨free, -, -⟩ := of_paginate_eq_ok paged
  rw [eq_of_paginate_eq_ok paged]
  constructor
  · intro s member loaded entry declared
    rcases List.mem_append.mp member with front | old
    · exact absurd (origin_of_mem_front front) loaded
    · exact not_marked_connected (mem_outputFields_iff.mpr ⟨s, old, declared⟩)
  · intro entry member
    rw [outputFields_append, List.mem_append] at member
    rcases member with new | old
    · exact marked_front_iff new
    · refine iff_of_false (not_marked_connected old) ?_
      rintro ⟨-, base, -, -, -, known, -, named, -⟩
      have generated : entry.1 ∈ (doc.survey settings).generatedNames := by
        rw [named]
        exact Survey.connectionName_mem_generatedNames _
          ((doc.mem_baseTypes_iff settings base).mpr known)
      apply not_mem_typeNames_of_generatedNames free generated
      rw [← typeNames_mapFields ((doc.survey settings).pageField settings.marker) doc]
      exact type_mem_typeNames_of_outputFields old

def hintedSchema : Document :=
  ofSource "schema.graphql"
    [.type ⟨.definition none, ⟨1, 1⟩, "Query", [], .output .object []
      [⟨⟨1, 14⟩, none, "users", [], .list (.named "User"),
        [⟨⟨1, 28⟩, "connection", [("maxAge", .int 60)]⟩]⟩]⟩,
     .type ⟨.definition none, ⟨2, 1⟩, "User", [], .output .object []
      [⟨⟨2, 13⟩, none, "id", [], .nonNull (.named "ID"), []⟩]⟩]

def hintsOnMarker : Settings := Settings.default.withCacheHints ⟨"connection", "maxAge"⟩

theorem marked_iff_hintedSchema :
    ∃ p, hintedSchema.paginate hintsOnMarker = .ok p ∧
      (∀ s ∈ p.document, s.origin ≠ .generated →
        ∀ entry ∈ s.definition.outputFields, ¬ hasDirective entry.2.directives "connection") ∧
      ∀ entry ∈ p.document.outputFields,
        hasDirective entry.2.directives "connection" ↔
          hintedSchema.HintIsMark hintsOnMarker entry.1 entry.2.name := by
  have paged : hintedSchema.paginate hintsOnMarker = .ok _ := rfl
  exact ⟨_, paged, marked_iff_of_paginate_eq_ok paged⟩

/-- So paging does not leave every field without the marker. -/
theorem marked_paginate_hintedSchema :
    ¬ ∀ p, hintedSchema.paginate hintsOnMarker = .ok p →
      ∀ entry ∈ p.document.outputFields,
        ¬ hasDirective entry.2.directives hintsOnMarker.marker := by
  intro bare
  have paged : hintedSchema.paginate hintsOnMarker = .ok _ := rfl
  let edges := Generated.plainField "edges" (.list (.named "UserEdge"))
    [.ofInt "connection" "maxAge" 60]
  refine bare _ paged ("UserConnection", edges) ?_ rfl
  exact List.mem_of_getElem? (i := 7) rfl

end Document

end PagedSchema
