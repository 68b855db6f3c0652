/-
Fields that are marked more than once. A survey remembers the base type of the last marked
declaration of a field, and lists those of all marked declarations. So a base type may be listed
that no field has any more.
-/
import PagedSchema.Proofs.PagedDocument

namespace PagedSchema

namespace Survey

variable {survey : Survey}

theorem exists_mem_specs_iff {base : String} :
    (∃ hint, (base, hint) ∈ survey.specs) ↔ base ∈ survey.baseTypes := by
  simp [specs]

theorem pair_mem_generatedNames_iff {base : String} :
    (base ++ "Edge" ∈ survey.generatedNames ∧ base ++ "Connection" ∈ survey.generatedNames) ↔
      base ∈ survey.baseTypes := by
  constructor
  · rintro ⟨edge, -⟩
    rcases (survey.mem_generatedNames).mp edge with ⟨same, -⟩ | ⟨other, listed, pair⟩
    · exact absurd same (edgeName_ne_pageInfoName base)
    · rcases mem_pairNames.mp pair with same | same
      · rw [edgeName_injective same]
        exact listed
      · exact absurd same (edgeName_ne_connectionName base other)
  · intro listed
    exact ⟨survey.edgeName_mem_generatedNames listed,
      survey.connectionName_mem_generatedNames listed⟩

end Survey

namespace Document

variable (doc : Document) (settings : Settings)

def LastMark (marker : String) (field : Coordinate) (base : String) : Prop :=
  ∃ before f after, doc.markedDeclarations marker = before ++ (field.type, f) :: after ∧
    f.name = field.field ∧ f.type.base = base ∧
    ∀ later ∈ after, (⟨later.1, later.2.name⟩ : Coordinate) ≠ field

/-- Each marked declaration with this base type is followed by another one of its field, and the
last one of that field has another base type. -/
def Replaced (marker base : String) : Prop :=
  base ∈ doc.markedBases marker ∧ ∀ field, ¬ doc.LastMark marker field base

variable {doc settings}

/-- What a survey remembers of a field is its last mark. -/
theorem get?_marked_eq_some_iff {field : Coordinate} {base : String} :
    (doc.survey settings).marked.get? field = some base ↔
      doc.LastMark settings.marker field base := by
  refine (Table.get?_ofLast_map_eq_some_iff (fun entry : String × Field => ⟨entry.1, entry.2.name⟩)
    (·.2.type.base) (doc.markedDeclarations settings.marker) field base).trans ?_
  constructor
  · rintro ⟨before, ⟨type, f⟩, after, whole, rfl, same, last⟩
    exact ⟨before, f, after, whole, rfl, same, last⟩
  · rintro ⟨before, f, after, whole, named, same, last⟩
    exact ⟨before, (field.type, f), after, whole, congrArg _ named, same, last⟩

theorem LastMark.exists_declaration {marker : String} {field : Coordinate} {base : String}
    (last : doc.LastMark marker field base) :
    ∃ f, (field.type, f) ∈ doc.markedDeclarations marker ∧ f.name = field.field ∧
      f.type.base = base := by
  obtain ⟨before, f, after, whole, named, same, -⟩ := last
  refine ⟨f, ?_, named, same⟩
  rw [whole]
  exact List.mem_append_right _ List.mem_cons_self

theorem mem_baseTypes_of_get?_marked {field : Coordinate} {base : String}
    (known : (doc.survey settings).marked.get? field = some base) :
    base ∈ (doc.survey settings).baseTypes := by
  obtain ⟨f, declared, -, rfl⟩ := (get?_marked_eq_some_iff.mp known).exists_declaration
  rw [mem_baseTypes_iff]
  exact List.mem_map_of_mem declared

theorem replaced_iff {base : String} :
    doc.Replaced settings.marker base ↔
      base ∈ (doc.survey settings).baseTypes ∧
        ∀ field, (doc.survey settings).marked.get? field ≠ some base := by
  simp only [Replaced, mem_baseTypes_iff, ne_eq, get?_marked_eq_some_iff]

theorem mem_baseTypes_iff_marked_iff {base : String} :
    (base ∈ (doc.survey settings).baseTypes ↔
        ∃ field, (doc.survey settings).marked.get? field = some base) ↔
      ¬ doc.Replaced settings.marker base := by
  rw [replaced_iff]
  constructor
  · rintro same ⟨listed, unknown⟩
    obtain ⟨field, known⟩ := same.mp listed
    exact unknown field known
  · intro kept
    constructor
    · intro listed
      by_contra unknown
      exact kept ⟨listed, not_exists.mp unknown⟩
    · rintro ⟨field, known⟩
      exact mem_baseTypes_of_get?_marked known

theorem not_replaced_of_fieldsOnce (once : doc.coordinates.Nodup) (base : String) :
    ¬ doc.Replaced settings.marker base := by
  rintro ⟨listed, lost⟩
  obtain ⟨⟨type, f⟩, declared, rfl⟩ := List.mem_map.mp listed
  obtain ⟨member, marked⟩ := doc.mem_markedDeclarations.mp declared
  exact lost ⟨type, f.name⟩
    (get?_marked_eq_some_iff.mp (doc.get?_marked_of_fieldsOnce settings once member marked))

/-- A base type that is remembered for a field is that of a marked field of the document, whatever
stands in front of it. -/
theorem exists_marked_iff_remembered {front : Document} {base : String} :
    (∃ entry ∈ outputFields (front ++ doc), hasDirective entry.2.directives settings.marker ∧
        (doc.survey settings).marked.get? ⟨entry.1, entry.2.name⟩ = some base) ↔
      ∃ field, (doc.survey settings).marked.get? field = some base := by
  constructor
  · rintro ⟨entry, -, -, known⟩
    exact ⟨_, known⟩
  · rintro ⟨field, known⟩
    obtain ⟨f, declared, named, -⟩ := (get?_marked_eq_some_iff.mp known).exists_declaration
    obtain ⟨member, marked⟩ := doc.mem_markedDeclarations.mp declared
    refine ⟨(field.type, f), ?_, marked, ?_⟩
    · rw [outputFields_append]
      exact List.mem_append_right _ member
    · rw [named]
      exact known

/-- What is remembered for a field is listed. What is listed, specified, or generated as a pair is
remembered for a field unless it is replaced, which needs a field that is declared twice. -/
theorem listed_iff_remembered (doc : Document) (settings : Settings) (base : String) :
    ((∃ field, (doc.survey settings).marked.get? field = some base) →
      base ∈ (doc.survey settings).baseTypes) ∧
    ((base ∈ (doc.survey settings).baseTypes ↔
        ∃ field, (doc.survey settings).marked.get? field = some base) ↔
      ¬ doc.Replaced settings.marker base) ∧
    (((∃ hint, (base, hint) ∈ (doc.survey settings).specs) ↔
        ∃ field, (doc.survey settings).marked.get? field = some base) ↔
      ¬ doc.Replaced settings.marker base) ∧
    (∀ types, (doc.survey settings).generate settings = .ok types →
      (((base ++ "Edge" ∈ types.map (·.name) ∧ base ++ "Connection" ∈ types.map (·.name)) ↔
          ∃ entry ∈ (doc.withGenerated types settings).outputFields,
            hasDirective entry.2.directives settings.marker ∧
              (doc.survey settings).marked.get? ⟨entry.1, entry.2.name⟩ = some base) ↔
        ¬ doc.Replaced settings.marker base)) ∧
    (doc.coordinates.Nodup → ¬ doc.Replaced settings.marker base) := by
  refine ⟨?_, mem_baseTypes_iff_marked_iff, ?_, ?_, fun once =>
    not_replaced_of_fieldsOnce once base⟩
  · rintro ⟨field, known⟩
    exact mem_baseTypes_of_get?_marked known
  · rw [Survey.exists_mem_specs_iff]
    exact mem_baseTypes_iff_marked_iff
  · intro types generated
    obtain ⟨-, rfl⟩ := (Survey.generate_eq_ok_iff _ settings types).mp generated
    rw [Survey.map_name_generatedTypes, Survey.pair_mem_generatedNames_iff, withGenerated,
      exists_marked_iff_remembered]
    exact mem_baseTypes_iff_marked_iff

def relistedSchema : Document :=
  ofSource "str://0"
    [.type ⟨.definition none, ⟨1, 1⟩, "Query", [], .output .object []
      [⟨⟨1, 14⟩, none, "list", [], .list (.named "A"), [⟨⟨1, 24⟩, "connection", []⟩]⟩,
        ⟨⟨1, 36⟩, none, "list", [], .list (.named "B"), [⟨⟨1, 46⟩, "connection", []⟩]⟩]⟩,
     .type ⟨.definition none, ⟨2, 1⟩, "A", [], .output .object []
      [⟨⟨2, 10⟩, none, "id", [], .named "ID", []⟩]⟩,
     .type ⟨.definition none, ⟨3, 1⟩, "B", [], .output .object []
      [⟨⟨3, 10⟩, none, "id", [], .named "ID", []⟩]⟩]

/-- The same with one more list of the first type. -/
def listsAgainSchema : Document :=
  relistedSchema ++ ofSource "str://1"
    [.type ⟨.extension, ⟨1, 8⟩, "Query", [], .output .object []
      [⟨⟨1, 21⟩, none, "others", [], .list (.named "A"), [⟨⟨1, 33⟩, "connection", []⟩]⟩]⟩]

theorem listed_iff_remembered_listsAgainSchema :
    ∃ types, (listsAgainSchema.survey .default).generate .default = .ok types ∧
      ¬ listsAgainSchema.Replaced "connection" "A" ∧
      (("AEdge" ∈ types.map (·.name) ∧ "AConnection" ∈ types.map (·.name)) ↔
        ∃ entry ∈ (listsAgainSchema.withGenerated types .default).outputFields,
          hasDirective entry.2.directives "connection" ∧
            (listsAgainSchema.survey .default).marked.get? ⟨entry.1, entry.2.name⟩ = some "A") := by
  obtain ⟨-, listed, -, pair, -⟩ := listed_iff_remembered listsAgainSchema .default "A"
  have generated : (listsAgainSchema.survey .default).generate .default = .ok _ := rfl
  have kept := listed.mp (iff_of_true (by decide) ⟨⟨"Query", "others"⟩, rfl⟩)
  exact ⟨_, generated, kept, (pair _ generated).mpr kept⟩

/-- Without it the survey lists a base type that no field has any more. -/
theorem baseTypes_relistedSchema :
    ¬ ∀ base, base ∈ (relistedSchema.survey .default).baseTypes ↔
      ∃ field, (relistedSchema.survey .default).marked.get? field = some base := by
  intro same
  obtain ⟨field, known⟩ := (same "A").mp (by decide)
  change [((⟨"Query", "list"⟩ : Coordinate), "B")].lookup field = some "A" at known
  rw [Table.lookup_cons_eq_ite] at known
  split at known <;> simp at known

end Document

end PagedSchema
