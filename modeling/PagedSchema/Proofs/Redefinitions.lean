/-
Types that are defined again, as a survey finds them and as the errors of the document tell them.
Both are the same list, so paging that stops at the survey's has errors to give, these among them.
-/
import PagedSchema.Proofs.DuplicateErrors
import PagedSchema.Proofs.Paginating

namespace PagedSchema.Document

open SchemaError

variable (doc : Document) (settings : Settings)

theorem typeDefinitions_map_entry :
    doc.typeDefinitions.map (fun t => (t.decl.name, t.location)) = doc.typeEntries := by
  rw [typeDefinitions, types, List.filter_filterMap, List.map_filterMap, typeEntries]
  congr 1
  funext s
  obtain ⟨origin, definition⟩ := s
  cases definition with
  | schema d => rfl
  | directive d => rfl
  | type d =>
      obtain ⟨role, position, name, directives, body⟩ := d
      cases role <;> rfl

theorem filter_isDuplicateType_eq_map (errors : List SchemaError) :
    errors.filter (·.isDuplicateType) =
      (errors.filterMap duplicateType?).map fun (name, first, second) =>
        .duplicateType name first second := by
  induction errors with
  | nil => rfl
  | cons e rest ih =>
      cases e with
      | duplicateType name first second =>
          exact congrArg (SchemaError.duplicateType name first second :: ·) ih
      | _ => exact ih

theorem redefinitions_eq :
    (doc.survey settings).redefinitions = doc.errors.filter (·.isDuplicateType) := by
  rw [filter_isDuplicateType_eq_map, filterMap_duplicateType?_errors, ← typeDefinitions_map_entry]
  rfl

theorem redefinitions_ne_nil_iff :
    (doc.survey settings).redefinitions ≠ [] ↔ ∃ e ∈ doc.errors, e.isDuplicateType := by
  rw [redefinitions_eq, ne_eq, List.filter_eq_nil_iff]
  simp only [not_forall, not_not, exists_prop]

variable {doc settings}

/-- Where paging gives errors, they are those of the document, with a type defined again among them,
or those of the document it made, without one. -/
theorem of_paginate_eq_invalid {errors : List SchemaError}
    (failed : doc.paginate settings = .error (.invalid errors)) :
    errors ≠ [] ∧ (errors = doc.errors ∨ ∀ e ∈ errors, e.isDuplicateType = false) := by
  by_cases once : doc.definedTypes.Nodup
  case neg =>
    rw [paginate_of_redefined once] at failed
    cases failed
    have found : (doc.survey settings).redefinitions ≠ [] := by
      rw [ne_eq, redefinitions_eq_nil_iff]
      exact once
    obtain ⟨e, member, -⟩ := (doc.redefinitions_ne_nil_iff settings).mp found
    exact ⟨List.ne_nil_of_mem member, .inl rfl⟩
  by_cases collides : doc.Collides settings.marker
  case pos =>
    obtain ⟨collision, other⟩ := paginate_of_collides once collides
    rw [other] at failed
    cases failed
  by_cases conflicts : doc.Conflicts settings.marker
  case pos =>
    obtain ⟨conflict, other⟩ := paginate_of_conflicts once collides conflicts
    rw [other] at failed
    cases failed
  rw [paginate_of_clear once collides conflicts] at failed
  split at failed
  · cases failed
  · rename_i present
    cases failed
    have free := (doc.free_survey_iff settings).mpr collides
    refine ⟨present, .inr fun e member => ?_⟩
    exact not_duplicateType_of_mem_errors ((nodup_definedTypes_paged free).mpr once) member

/-- A survey finds the types defined again that are among the errors of its document, in the same
order. If there are any, and only then, paging stops with all errors of the document, never with
none; what it gives later holds no type defined again. -/
theorem redefinitions_eq_filter_errors (doc : Document) (settings : Settings) :
    (doc.survey settings).redefinitions = doc.errors.filter (·.isDuplicateType) ∧
    ((doc.survey settings).redefinitions ≠ [] ↔ ∃ e ∈ doc.errors, e.isDuplicateType) ∧
    ((doc.survey settings).redefinitions ≠ [] →
      doc.paginate settings = .error (.invalid doc.errors) ∧
        ∀ e ∈ (doc.survey settings).redefinitions, e ∈ doc.errors) ∧
    ((∃ errors, doc.paginate settings = .error (.invalid errors) ∧
        ∃ e ∈ errors, e.isDuplicateType) ↔
      ∃ e ∈ doc.errors, e.isDuplicateType) ∧
    doc.paginate settings ≠ .error (.invalid []) := by
  have stops : (doc.survey settings).redefinitions ≠ [] →
      doc.paginate settings = .error (.invalid doc.errors) := by
    intro found
    rw [ne_eq, redefinitions_eq_nil_iff] at found
    exact paginate_of_redefined found
  refine ⟨redefinitions_eq doc settings, redefinitions_ne_nil_iff doc settings, ?_, ?_, ?_⟩
  · intro found
    refine ⟨stops found, fun e member => ?_⟩
    rw [redefinitions_eq] at member
    exact List.mem_of_mem_filter member
  · constructor
    · rintro ⟨errors, failed, e, member, duplicate⟩
      rcases (of_paginate_eq_invalid failed).2 with rfl | others
      · exact ⟨e, member, duplicate⟩
      · rw [others e member] at duplicate
        cases duplicate
    · intro found
      exact ⟨doc.errors, stops ((doc.redefinitions_ne_nil_iff settings).mpr found), found⟩
  · intro failed
    exact (of_paginate_eq_invalid failed).1 rfl

/-- A type that is defined three times, once behind an extension, next to another error. -/
def postsTwiceSchema : Document :=
  ofSource "schema.graphql"
    [.type ⟨.extension, ⟨1, 1⟩, "Post", [], .output .object []
      [⟨⟨1, 20⟩, none, "author", [], .named "Author", []⟩]⟩,
     .type ⟨.definition none, ⟨2, 1⟩, "Post", [], .scalar⟩,
     .directive ⟨⟨3, 1⟩, none, "Post", [], false, [.fieldDefinition]⟩,
     .type ⟨.definition none, ⟨4, 1⟩, "Post", [], .enum []⟩,
     .type ⟨.definition none, ⟨5, 1⟩, "Post", [], .scalar⟩]

theorem redefinitions_postsTwiceSchema :
    (postsTwiceSchema.survey .default).redefinitions ≠ [] ∧
      postsTwiceSchema.paginate .default = .error (.invalid
        [.duplicateType "Post" (.at "schema.graphql" ⟨2, 1⟩) (.at "schema.graphql" ⟨4, 1⟩),
         .duplicateType "Post" (.at "schema.graphql" ⟨2, 1⟩) (.at "schema.graphql" ⟨5, 1⟩),
         .undefinedType "Author" "Post.author" (.at "schema.graphql" ⟨1, 20⟩)]) := by
  have found : (postsTwiceSchema.survey .default).redefinitions ≠ [] := by decide
  obtain ⟨-, -, stops, -, -⟩ := redefinitions_eq_filter_errors postsTwiceSchema .default
  refine ⟨found, (stops found).1.trans ?_⟩
  have errors : postsTwiceSchema.errors =
      [.duplicateType "Post" (.at "schema.graphql" ⟨2, 1⟩) (.at "schema.graphql" ⟨4, 1⟩),
       .duplicateType "Post" (.at "schema.graphql" ⟨2, 1⟩) (.at "schema.graphql" ⟨5, 1⟩),
       .undefinedType "Author" "Post.author" (.at "schema.graphql" ⟨1, 20⟩)] := by decide
  rw [errors]

end PagedSchema.Document
