/-
What a survey takes from its document. Of the types it keeps the first declaration of each name, of
the marked fields the last declaration of each, and both in the order in which they are first met.
-/
import PagedSchema.Proofs.Survey

namespace PagedSchema

/-- The name of a type that is defined or extended, with its location. -/
def Sourced.declaration? (s : Sourced) : Option (String × Location) :=
  match s.definition with
  | .type d => some (d.name, s.origin.locate d.position)
  | _ => none

/-- The fields that a definition or extension of an object or interface type marks, with their base
types. -/
def Sourced.marks (marker : String) (s : Sourced) : List (Coordinate × String) :=
  match s.definition with
  | .type ⟨_, _, type, _, .output _ _ fields⟩ =>
    (fields.filter fun f => ∃ d ∈ f.directives, d.name = marker).map fun f =>
      (⟨type, f.name⟩, f.type.base)
  | _ => []

/-- The body without the arguments of its fields, and without input fields and enum values. -/
def TypeBody.outline : TypeBody → TypeBody
  | output kind interfaces fields =>
    .output kind interfaces (fields.map fun f => { f with arguments := [] })
  | input _ => .input []
  | enum _ => .enum []
  | body => body

/-- The definition without arguments, input fields and enum values, and without the directives that
are not on its fields. -/
def Definition.outline : Definition → Definition
  | schema d => .schema { d with directives := [] }
  | directive d => .directive { d with arguments := [] }
  | type d => .type { d with directives := [], body := d.body.outline }

def Sourced.outline (s : Sourced) : Sourced := { s with definition := s.definition.outline }

namespace Document

variable (doc : Document) (settings : Settings)

def declarations : List (String × Location) := doc.filterMap (·.declaration?)

def marks (marker : String) : List (Coordinate × String) := doc.flatMap (·.marks marker)

def outline : Document := doc.map (·.outline)

theorem types_map_declaration :
    doc.types.map (fun t => (t.decl.name, t.location)) = doc.declarations := by
  rw [types, List.map_filterMap, declarations]
  congr 1
  funext s
  obtain ⟨origin, definition⟩ := s
  cases definition <;> rfl

theorem hasDirective_eq_decide (directives : List Directive) (marker : String) :
    hasDirective directives marker = decide (∃ d ∈ directives, d.name = marker) := by
  rw [Bool.eq_iff_iff, hasDirective, List.any_eq_true, decide_eq_true_iff]
  simp only [beq_iff_eq]

theorem markedFields_eq_marks (marker : String) : doc.markedFields marker = doc.marks marker := by
  rw [markedFields, outputFields_eq_flatMap, definitions, List.flatMap_map, List.filter_flatMap,
    List.map_flatMap, marks]
  congr 1
  funext s
  obtain ⟨origin, definition⟩ := s
  cases definition with
  | schema d => rfl
  | directive d => rfl
  | type d =>
      obtain ⟨role, position, name, directives, body⟩ := d
      cases body with
      | output kind interfaces fields =>
          change ((fields.map _).filter _).map _ = (fields.filter _).map _
          rw [List.filter_map, List.map_map]
          simp only [Function.comp_def, hasDirective_eq_decide]
      | scalar | enum | union | input => rfl

theorem declared_survey : (doc.survey settings).declared = .ofFirst doc.declarations :=
  congrArg Table.ofFirst doc.types_map_declaration

theorem marked_survey : (doc.survey settings).marked = .ofLast (doc.marks settings.marker) :=
  congrArg Table.ofLast (doc.markedFields_eq_marks settings.marker)

theorem baseTypes_survey :
    (doc.survey settings).baseTypes = ((doc.marks settings.marker).map Prod.snd).eraseDups := by
  rw [← markedFields_eq_marks, ← firstMet_eq_eraseDups]
  rfl

theorem declarations_outline : doc.outline.declarations = doc.declarations := by
  rw [declarations, outline, List.filterMap_map, declarations]
  congr 1
  funext s
  obtain ⟨origin, definition⟩ := s
  cases definition <;> rfl

theorem marks_outline (marker : String) : doc.outline.marks marker = doc.marks marker := by
  rw [marks, outline, List.flatMap_map, marks]
  congr 1
  funext s
  obtain ⟨origin, definition⟩ := s
  cases definition with
  | schema d => rfl
  | directive d => rfl
  | type d =>
      obtain ⟨role, position, name, directives, body⟩ := d
      cases body with
      | output kind interfaces fields =>
          change ((fields.map _).filter _).map _ = (fields.filter _).map _
          rw [List.filter_map, List.map_map]
          rfl
      | scalar | enum | union | input => rfl

/-- A survey keeps the first declaration of each type, the last mark of each field, and the base
types of all marks. Arguments, input fields, enum values and directives on types have no part in
it. -/
theorem survey_keeps (doc : Document) (settings : Settings) :
    (doc.survey settings).declared.KeepsFirst doc.declarations ∧
    (doc.survey settings).marked.KeepsLast (doc.marks settings.marker) ∧
    (doc.survey settings).baseTypes = ((doc.marks settings.marker).map Prod.snd).eraseDups ∧
    (doc.outline.survey settings).declared = (doc.survey settings).declared ∧
    (doc.outline.survey settings).marked = (doc.survey settings).marked ∧
    (doc.outline.survey settings).baseTypes = (doc.survey settings).baseTypes := by
  refine ⟨?_, ?_, doc.baseTypes_survey settings, ?_, ?_, ?_⟩
  · rw [declared_survey]
    exact Table.keepsFirst_ofFirst _
  · rw [marked_survey]
    exact Table.keepsLast_ofLast _
  · rw [declared_survey, declared_survey, declarations_outline]
  · rw [marked_survey, marked_survey, marks_outline]
  · rw [baseTypes_survey, baseTypes_survey, marks_outline]

example :
    let survey := survey (ofSource "schema.graphql"
      [.type ⟨.extension, ⟨1, 1⟩, "Query", [], .output .object []
        [⟨⟨1, 21⟩, none, "posts", [], .list (.named "Post"), [⟨⟨1, 35⟩, "connection", []⟩]⟩]⟩,
       .type ⟨.definition none, ⟨2, 1⟩, "Query", [], .output .object []
        [⟨⟨2, 14⟩, none, "posts", [], .list (.named "Note"), [⟨⟨2, 28⟩, "connection", []⟩]⟩]⟩])
      .default
    survey.declared.entries = [("Query", .at "schema.graphql" ⟨1, 1⟩)] ∧
      survey.marked.entries = [(⟨"Query", "posts"⟩, "Note")] ∧
      survey.baseTypes = ["Post", "Note"] := by
  decide

end Document

end PagedSchema
