/-
The checks of a paged document against those of the document before: definition by definition they
report the same, but for what generated names and the new types of marked fields settle.
-/
import PagedSchema.Proofs.PagedWellFormed
import PagedSchema.Proofs.Reports

namespace PagedSchema

/-- Whether an error stays when types of these names are added and marked fields return connections:
it is not that one of the names is undefined, nor about the type that a marked field returned. -/
def SchemaError.stays (names : List String) : SchemaError × Bool → Bool
  | (.undefinedType name _ _, label) => !label && !names.contains name
  | _ => true

open SchemaError Document Check

/-- The checks of a document with further types and of the document before, with labels: the ones
report what stays of the others' reports, and both declare the same fields. -/
structure Agrees (names defined : List String) (checks : List Check)
    (labelled : List (Check × Bool)) : Prop where
  reported : ∀ seen, failedChecks (names ++ defined) seen checks =
    ((labelledFailures defined seen labelled).filter (stays names)).map Prod.fst
  recorded : ∀ seen, recordAll seen checks = recordAll seen (labelled.map Prod.fst)

namespace Agrees

variable {names defined : List String}

theorem nil : Agrees names defined [] [] := ⟨fun _ => rfl, fun _ => rfl⟩

theorem append {xs ys : List Check} {xs' ys' : List (Check × Bool)}
    (first : Agrees names defined xs xs') (second : Agrees names defined ys ys') :
    Agrees names defined (xs ++ ys) (xs' ++ ys') where
  reported := by
    intro seen
    rw [failedChecks_append, labelledFailures_append, List.filter_append, List.map_append,
      first.reported, second.reported, first.recorded]
  recorded := by
    intro seen
    simp only [recordAll, List.map_append, List.foldl_append]
    change recordAll (recordAll seen xs) ys = recordAll (recordAll seen (xs'.map Prod.fst)) _
    rw [first.recorded, second.recorded]

theorem flatMap {α : Type} {l : List α} {f : α → List Check} {g : α → List (Check × Bool)}
    (each : ∀ a ∈ l, Agrees names defined (f a) (g a)) :
    Agrees names defined (l.flatMap f) (l.flatMap g) := by
  induction l with
  | nil => exact nil
  | cons a rest ih =>
      rw [List.forall_mem_cons] at each
      exact each.1.append (ih each.2)

/-- A check agrees with itself, unless a type of the added names is extended. -/
theorem single {c : Check}
    (other : ∀ type location, c = .extends type location → type ∉ names) :
    Agrees names defined [c] [(c, false)] where
  reported := by
    intro seen
    rw [failedChecks_singleton, labelledFailures_singleton]
    cases c with
    | declares field location =>
        simp only [failure?]
        cases seen.get? field <;> rfl
    | repeatsArgument field argument location => rfl
    | refers name referencedBy location =>
        by_cases generated : name ∈ names <;> by_cases known : name ∈ defined <;>
          cases scalar : isBuiltinScalar name <;>
          simp [failure?, stays, generated, known, scalar]
    | «extends» type location =>
        have same : (names ++ defined).contains type = defined.contains type := by
          simp [other type location rfl]
        simp only [failure?, same]
        split <;> rfl
  recorded := fun _ => rfl

theorem unlabelled {checks : List Check}
    (others : ∀ type location, .extends type location ∈ checks → type ∉ names) :
    Agrees names defined checks (checks.map (·, false)) := by
  induction checks with
  | nil => exact nil
  | cons c rest ih =>
      have head : Agrees names defined [c] [(c, false)] := by
        apply single
        rintro type location rfl
        exact others type location List.mem_cons_self
      exact head.append (ih fun type location later =>
        others type location (List.mem_cons_of_mem c later))

/-- A reference with the label may be replaced by one that resolves. -/
theorem replaced {name old owner oldOwner : String} {location oldLocation : Location}
    (resolves : Resolves (names ++ defined) name) :
    Agrees names defined [.refers name owner location]
      [(.refers old oldOwner oldLocation, true)] where
  reported := by
    intro seen
    have passes : failure? (names ++ defined) seen (.refers name owner location) = none :=
      (passes_refers (names ++ defined) name owner location).mpr resolves
    rw [failedChecks_singleton, labelledFailures_singleton, passes]
    simp only [failure?]
    split <;> rfl
  recorded := fun _ => rfl

/-- Further checks of references that resolve report nothing. -/
theorem added {origin : Origin} {owner : String} {values : List InputValue}
    (resolve : ∀ name ∈ values.map (·.type.base), Resolves (names ++ defined) name) :
    Agrees names defined (ofInputs origin owner values) [] where
  reported := by
    intro seen
    change _ = []
    rw [failedChecks_eq_nil_iff, declared_ofInputs]
    exact ⟨List.nodup_nil, fun _ h => absurd h List.not_mem_nil,
      (passes_ofInputs_iff owner values).mpr resolve⟩
  recorded := by
    intro seen
    induction values generalizing seen with
    | nil => rfl
    | cons v rest ih =>
        exact ih (fun name member => resolve name (List.mem_cons_of_mem _ member)) seen

end Agrees

namespace Check

variable {origin : Origin} {type : String} {f : Field}

/-- Pagination arguments repeat no argument of a field that has none of them. -/
theorem repeatedArguments_append_paginationInputs (field : Coordinate)
    {arguments : List InputValue} (clear : ∀ a ∈ arguments, ¬ isPaginationArgument a.name) :
    repeatedArguments origin field (arguments ++ paginationInputs) =
      repeatedArguments origin field arguments := by
  unfold repeatedArguments repeats
  rw [List.map_append, repeatsFrom_append_right]
  · rw [List.map_map]
    change paginationNames.Nodup
    decide
  · exact fun _ _ => rfl
  · intro name own added
    rw [List.map_map] at own added
    obtain ⟨a, present, rfl⟩ := List.mem_map.mp own
    exact clear a present ((isPaginationArgument_iff a.name).mpr added)

/-- The checks of a connection are those of the field, but for its type, and those of the pagination
arguments. -/
theorem ofField_toConnection (base marker : String)
    (clear : ∀ a ∈ f.arguments, ¬ isPaginationArgument a.name) :
    ofField origin type (f.toConnection base marker) =
      [declares ⟨type, f.name⟩ (origin.locate f.position)] ++
        [refers (connectionName base) (Coordinate.text ⟨type, f.name⟩)
          (origin.locate f.position)] ++
        (repeatedArguments origin ⟨type, f.name⟩ f.arguments ++
          ofInputs origin (Coordinate.text ⟨type, f.name⟩) f.arguments) ++
        ofInputs origin (Coordinate.text ⟨type, f.name⟩) paginationInputs := by
  change [declares _ _, refers _ _ _] ++
    repeatedArguments origin ⟨type, f.name⟩ (f.arguments ++ paginationInputs) ++
    ofInputs origin _ (f.arguments ++ paginationInputs) = _
  rw [repeatedArguments_append_paginationInputs _ clear]
  simp only [ofInputs, List.map_append, List.append_assoc]
  rfl

theorem labelField_of_marked {marker : String} (marked : hasDirective f.directives marker) :
    labelField marker origin type f =
      [(declares ⟨type, f.name⟩ (origin.locate f.position), false)] ++
        [(refers f.type.base (Coordinate.text ⟨type, f.name⟩) (origin.locate f.position), true)] ++
        (repeatedArguments origin ⟨type, f.name⟩ f.arguments ++
          ofInputs origin (Coordinate.text ⟨type, f.name⟩) f.arguments).map (·, false) ++ [] := by
  rw [labelField, marked, List.append_nil]
  rfl

theorem labelField_of_not_marked {marker : String}
    (plain : ¬ hasDirective f.directives marker) :
    labelField marker origin type f = (ofField origin type f).map (·, false) := by
  simp only [labelField, ofField, List.append_assoc, List.map_append, eq_false_of_ne_true plain]
  rfl

/-- The checks of a field extend nothing. -/
theorem extends_not_mem_ofField {extended : String} {location : Location} :
    .extends extended location ∉ ofField origin type f := by
  simp [ofField, repeatedArguments, ofInputs]

theorem extends_not_mem_ofTypeBody {location extendedAt : Location} {extended : String}
    (body : TypeBody) : .extends extended extendedAt ∉ ofTypeBody origin type location body := by
  cases body with
  | scalar => exact List.not_mem_nil
  | enum values => exact List.not_mem_nil
  | union members => simp [ofTypeBody]
  | input fields => simp [ofTypeBody, ofInputs]
  | output kind interfaces fields =>
      intro present
      rcases List.mem_append.mp present with interface | field
      · simp at interface
      · obtain ⟨f, -, own⟩ := List.mem_flatMap.mp field
        exact extends_not_mem_ofField own

theorem typeName?_of_extends_mem {s : Sourced} {extended : String} {location : Location}
    (present : .extends extended location ∈ ofDefinition s) :
    s.definition.typeName? = some extended := by
  obtain ⟨origin, definition⟩ := s
  cases definition with
  | schema d => simp [ofDefinition, ofSchema] at present
  | directive d => simp [ofDefinition, ofInputs] at present
  | type d =>
      rcases List.mem_append.mp present with head | body
      · split at head
        · cases List.mem_singleton.mp head
          rfl
        · cases head
      · exact absurd body (extends_not_mem_ofTypeBody _)

end Check

section Document

variable {doc : Document} {settings : Settings}

theorem agrees_field (clear : ¬ doc.Conflicts settings.marker) (origin : Origin) {type : String}
    {f : Field} (member : (type, f) ∈ doc.outputFields) :
    Agrees (doc.survey settings).generatedNames doc.definedTypes
      (ofField origin type ((doc.survey settings).pageField settings.marker type f))
      (labelField settings.marker origin type f) := by
  by_cases marked : hasDirective f.directives settings.marker
  -- Fields may be declared twice here, so the base type need not be the field's own.
  · obtain ⟨base, known, paged⟩ := exists_pageField_of_marked member marked
    have arguments : ∀ a ∈ f.arguments, ¬ isPaginationArgument a.name :=
      passable_of_not_conflicts clear member ((selected?_isSome_iff member).mpr marked)
    rw [paged, ofField_toConnection base settings.marker arguments, labelField_of_marked marked]
    refine (((Agrees.single ?_).append (.replaced ?_)).append (.unlabelled ?_)).append (.added ?_)
    · rintro _ _ ⟨⟩
    · exact .inr (List.mem_append_left _ (Survey.connectionName_mem_generatedNames _ known))
    · intro extended location present
      simp [repeatedArguments, ofInputs] at present
    · exact fun name present => .inl (isBuiltinScalar_of_paginationInputs present)
  · rw [pageField_of_not_marked marked, labelField_of_not_marked marked]
    exact .unlabelled fun _ _ present => absurd present extends_not_mem_ofField

/-- Whatever the document extends has no generated name. -/
theorem extends_not_generated (free : (doc.survey settings).Free) {s : Sourced} (present : s ∈ doc)
    {type : String} {location : Location} (extended : .extends type location ∈ ofDefinition s) :
    type ∉ (doc.survey settings).generatedNames := by
  intro generated
  apply doc.not_mem_typeNames_of_generated settings free generated
  exact List.mem_filterMap.mpr
    ⟨s.definition, List.mem_map_of_mem present, typeName?_of_extends_mem extended⟩

theorem agrees_definition (free : (doc.survey settings).Free)
    (clear : ¬ doc.Conflicts settings.marker) {s : Sourced} (present : s ∈ doc) :
    Agrees (doc.survey settings).generatedNames doc.definedTypes
      (ofDefinition (s.mapFields ((doc.survey settings).pageField settings.marker)))
      (labelDefinition settings.marker s) := by
  have news : ∀ type location, .extends type location ∈ ofDefinition s →
      type ∉ (doc.survey settings).generatedNames :=
    fun _ _ extended => extends_not_generated free present extended
  have fields : ∀ entry ∈ s.definition.outputFields, entry ∈ doc.outputFields :=
    fun entry declared => mem_outputFields_iff.mpr ⟨s, present, declared⟩
  obtain ⟨origin, definition⟩ := s
  cases definition with
  | schema d => exact .unlabelled news
  | directive d => exact .unlabelled news
  | type d =>
      obtain ⟨role, position, name, directives, body⟩ := d
      cases body with
      | scalar | enum | union | input => exact .unlabelled news
      | output kind interfaces fs =>
          change Agrees _ _ (_ ++ (_ ++ (fs.map _).flatMap (ofField origin name))) _
          rw [← List.append_assoc, List.flatMap_map]
          refine Agrees.append (.unlabelled ?_) (.flatMap ?_)
          · intro type location head
            apply news type location
            rcases List.mem_append.mp head with extension | interface
            · exact List.mem_append_left _ extension
            · exact List.mem_append_right _ (List.mem_append_left _ interface)
          · intro f declared
            exact agrees_field clear origin (fields (name, f) (List.mem_map_of_mem declared))

theorem agrees_document (free : (doc.survey settings).Free)
    (clear : ¬ doc.Conflicts settings.marker) :
    Agrees (doc.survey settings).generatedNames doc.definedTypes
      (doc.connected settings).checks (doc.labelledChecks settings.marker) := by
  unfold connected mapFields checks labelledChecks
  rw [List.flatMap_map]
  exact .flatMap fun s present => agrees_definition free clear present

end Document

end PagedSchema
