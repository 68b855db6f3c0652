/-
How far the walk over marked fields gets in any document with any survey. It stops at the first
selected field that has a pagination argument, with all selected fields before it done and nothing
changed from there on. A second walk over what it leaves changes nothing and ends in the same way.
-/
import PagedSchema.Proofs.Paginating

namespace PagedSchema

section Steps

variable {α β ε : Type} {step : α → α × Except ε (List β)}

/-- If each step does nothing more the second time, and fails as it did the first time, then so
does a walk. -/
theorem stepThrough_stepThrough
    (again : ∀ a, step (step a).1 = ((step a).1, (step a).2.map fun _ => [])) (l : List α) :
    stepThrough step (stepThrough step l).1 =
      ((stepThrough step l).1, (stepThrough step l).2.map fun _ => []) := by
  induction l with
  | nil => rfl
  | cons a rest ih =>
      have second := again a
      rcases first : step a with ⟨a', e | bs⟩
      · rw [first] at second
        have stopped : stepThrough step (a :: rest) = (a' :: rest, .error e) := by
          simp only [stepThrough, first]
        rw [stopped]
        simp only [stepThrough, second]
        rfl
      · rw [first] at second
        have went : stepThrough step (a :: rest) =
            (a' :: (stepThrough step rest).1, (stepThrough step rest).2.map (bs ++ ·)) := by
          simp only [stepThrough, first]
        rw [went]
        simp only [stepThrough, second, ih]
        cases (stepThrough step rest).2 <;> rfl

end Steps

namespace Survey

variable {survey : Survey} {marker type : String} {f : Field}

theorem pageField_of_not_selects (plain : ¬ survey.Selects marker type f) :
    survey.pageField marker type f = f := by
  rw [pageField, selected?_eq_none_iff.mpr plain]

theorem pageField_of_remembered {base : String} (marked : hasDirective f.directives marker)
    (known : survey.marked.get? ⟨type, f.name⟩ = some base) :
    survey.pageField marker type f = f.toConnection base marker := by
  rw [pageField, selected?_eq_some_iff.mpr ⟨marked, known⟩]

theorem flatMap_pageCoordinate (survey : Survey) (marker : String)
    (fields : List (String × Field)) :
    (fields.flatMap fun entry => survey.pageCoordinate marker entry.1 entry.2) =
      (fields.filter fun (type, f) =>
        hasDirective f.directives marker && survey.marked.contains ⟨type, f.name⟩).map
          fun (type, f) => ⟨type, f.name⟩ := by
  rw [← Document.flatMap_ite_singleton]
  apply List.flatMap_congr
  rintro ⟨type, f⟩ -
  rw [pageCoordinate]
  by_cases selected : survey.Selects marker type f
  · obtain ⟨base, found⟩ := selects_iff_exists.mp selected
    rw [found, if_pos (Bool.and_eq_true_iff.mpr selected)]
  · rw [selected?_eq_none_iff.mpr selected,
      if_neg fun both => selected (Bool.and_eq_true_iff.mp both)]

/-- A walk fails exactly if a selected field has a pagination argument. It fails at the first such
field and argument and leaves the selected fields before as connections of the base types that the
survey has for them, and all else as it is. Otherwise it does so with all selected fields, and gives
their coordinates in order. -/
theorem outcome_connect (survey : Survey) (settings : Settings) (doc : Document) :
    ((∃ left conflict, survey.connect settings doc = (left, .error conflict)) ↔
      ∃ entry ∈ doc.outputFields, survey.Selects settings.marker entry.1 entry.2 ∧
        ∃ a ∈ entry.2.arguments, a.name ∈ paginationNames) ∧
    ∃ next : String → Field → Field,
      (∀ type f, ¬ survey.Selects settings.marker type f → next type f = f) ∧
      (∀ type f base, hasDirective f.directives settings.marker →
        survey.marked.get? ⟨type, f.name⟩ = some base →
        next type f =
          { f with
            type := .named (base ++ "Connection")
            arguments := f.arguments ++
              [.plain "after" "String", .plain "first" "Int", .plain "before" "String",
                .plain "last" "Int"]
            directives := f.directives.filter (·.name != settings.marker) }) ∧
      (∀ left conflict, survey.connect settings doc = (left, .error conflict) ↔
        ∃ place a, doc = FieldPlace.document place ∧ survey.StopsAt settings.marker place a ∧
          left = (place.mapBefore next).document ∧
          conflict = ⟨⟨place.type, place.field.name⟩, settings.marker, a.name,
            place.origin.locate a.position⟩) ∧
      ∀ left connected, survey.connect settings doc = (left, .ok connected) ↔
        (∀ entry ∈ doc.outputFields, survey.Selects settings.marker entry.1 entry.2 →
          ∀ a ∈ entry.2.arguments, a.name ∉ paginationNames) ∧
        left = doc.mapFields next ∧
        connected = (doc.outputFields.filter fun (type, f) =>
          hasDirective f.directives settings.marker && survey.marked.contains ⟨type, f.name⟩).map
            fun (type, f) => ⟨type, f.name⟩ := by
  refine ⟨?_, survey.pageField settings.marker, fun _ _ => pageField_of_not_selects,
    fun _ _ _ => pageField_of_remembered, fun _ _ => connect_eq_error_iff, ?_⟩
  · simp only [exists_connect_eq_error_iff, not_passable_iff]
  · intro left connected
    simp only [connect_eq_ok_iff, passable_iff, flatMap_pageCoordinate]

section Again

variable (survey : Survey) (marker : String) (origin : Origin)

theorem connectField_again (type : String) (f : Field) :
    survey.connectField marker origin type (survey.connectField marker origin type f).1 =
      ((survey.connectField marker origin type f).1,
        (survey.connectField marker origin type f).2.map fun _ => []) := by
  cases selected : survey.selected? marker type f with
  | none =>
      simp only [connectField, selected]
      rfl
  | some base =>
      cases taken : f.arguments.find? (isPaginationArgument ·.name) with
      | some a =>
          simp only [connectField, selected, taken]
          rfl
      | none =>
          have plain : survey.selected? marker type (f.toConnection base marker) = none :=
            Document.selected?_of_not_marked survey (Document.not_marked_toConnection f base marker)
          simp only [connectField, selected, taken, plain]
          rfl

theorem connectDefinition_again (s : Sourced) :
    survey.connectDefinition marker (survey.connectDefinition marker s).1 =
      ((survey.connectDefinition marker s).1,
        (survey.connectDefinition marker s).2.map fun _ => []) := by
  obtain ⟨origin, definition⟩ := s
  cases definition with
  | schema d => rfl
  | directive d => rfl
  | type d =>
      obtain ⟨role, position, name, directives, body⟩ := d
      cases body with
      | scalar | enum | union | input => rfl
      | output kind interfaces fields =>
          have walk := stepThrough_stepThrough (survey.connectField_again marker origin name) fields
          simp only [connectDefinition, connectType, walk]

end Again

/-- A second walk finds every connection without its mark, and stops where the first one did. -/
theorem connect_connect (survey : Survey) (settings : Settings) (doc : Document) :
    survey.connect settings (survey.connect settings doc).1 =
      ((survey.connect settings doc).1,
        match (survey.connect settings doc).2 with
        | .ok _ => .ok []
        | .error conflict => .error conflict) := by
  have walk : survey.connect settings (survey.connect settings doc).1 = _ :=
    stepThrough_stepThrough (survey.connectDefinition_again settings.marker) doc
  rw [walk]
  change ((survey.connect settings doc).1, (survey.connect settings doc).2.map _) = _
  cases (survey.connect settings doc).2 <;> rfl

end Survey

end PagedSchema
