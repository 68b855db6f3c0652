/-
Paging a document without positions and origins gives what paging the document gives, without
positions and origins. So no stage of it decides anything by a location.
-/
import PagedSchema.Proofs.Paginating
import PagedSchema.Proofs.UnplacedErrors
import PagedSchema.Sources

namespace PagedSchema

theorem readInt32?_unplaced (ds : List Directive) (name argument : String) :
    readInt32? (ds.map (·.unplaced)) name argument = readInt32? ds name argument := by
  unfold readInt32? findDirective?
  rw [List.find?_map]
  change Option.bind (Option.map _ (ds.find? (·.name == name))) _ = _
  cases ds.find? (·.name == name) <;> rfl

theorem TypeDecl.outputFields_unplaced (d : TypeDecl) :
    d.unplaced.outputFields = d.outputFields.map (·.unplaced) := by
  obtain ⟨role, position, name, directives, body⟩ := d
  cases body <;> rfl

/-- A survey whose types are declared nowhere in particular. -/
def Survey.unplaced (survey : Survey) : Survey :=
  { survey with
    declared := survey.declared.map Location.unplaced
    redefinitions := survey.redefinitions.map (·.unplaced) }

namespace Document

variable (doc : Document)

theorem types_unplaced : doc.unplaced.types = doc.types.map (·.unplaced) := by
  unfold types unplaced
  rw [List.filterMap_map, List.map_filterMap]
  congr 1
  funext s
  obtain ⟨origin, definition⟩ := s
  cases definition <;> rfl

theorem typeDefinitions_unplaced :
    doc.unplaced.typeDefinitions = doc.typeDefinitions.map (·.unplaced) := by
  unfold typeDefinitions
  rw [types_unplaced, List.filter_map]
  rfl

theorem outputFields_unplaced :
    doc.unplaced.outputFields = doc.outputFields.map fun entry => (entry.1, entry.2.unplaced) := by
  simp only [outputFields_eq_flatMap, definitions_unplaced, List.flatMap_map, List.map_flatMap,
    Definition.outputFields_unplaced]

theorem markedFields_unplaced (marker : String) :
    doc.unplaced.markedFields marker = doc.markedFields marker := by
  unfold markedFields
  rw [outputFields_unplaced, List.filter_map, List.map_map]
  simp only [Function.comp_def, Field.unplaced, hasDirective_unplaced]

theorem typeHints_unplaced (hints : CacheHints) (d : TypeDecl) :
    typeHints hints d.unplaced = typeHints hints d := by
  simp only [typeHints, TypeDecl.outputFields_unplaced, List.filterMap_map, Function.comp_def,
    Field.unplaced, readInt32?_unplaced]
  simp only [TypeDecl.unplaced, readInt32?_unplaced]

theorem hintReadings_unplaced (hints : Option CacheHints) :
    doc.unplaced.hintReadings hints = doc.hintReadings hints := by
  cases hints with
  | none => rfl
  | some hints =>
      have types : ∀ d : Definition, d.unplaced.type? = d.type?.map (·.unplaced) := by
        intro d
        cases d <;> rfl
      rw [hintReadings_some, hintReadings_some, definitions_unplaced, List.filterMap_map]
      simp only [Function.comp_def, types, ← List.map_filterMap, List.flatMap_map,
        typeHints_unplaced]

theorem survey_unplaced (settings : Settings) :
    doc.unplaced.survey settings = (doc.survey settings).unplaced := by
  have declared : Table.ofFirst (doc.unplaced.types.map fun t => (t.decl.name, t.location)) =
      (Table.ofFirst (doc.types.map fun t => (t.decl.name, t.location))).map
        Location.unplaced := by
    rw [← Table.ofFirst_map, types_unplaced, List.map_map, List.map_map]
    rfl
  have redefinitions : repeats (doc.unplaced.typeDefinitions.map fun t =>
        (t.decl.name, t.location)) =
      (repeats (doc.typeDefinitions.map fun t => (t.decl.name, t.location))).map
        (Prod.map id (Prod.map Location.unplaced Location.unplaced)) := by
    rw [← repeats_map, typeDefinitions_unplaced, List.map_map, List.map_map]
    rfl
  unfold survey Survey.unplaced
  simp only [declared, redefinitions, markedFields_unplaced, hintReadings_unplaced, List.map_map]
  rfl

end Document

/-- What a failed stage reports, without locations. -/
def NameCollision.unplaced (c : NameCollision) : NameCollision :=
  { c with existing := c.existing.unplaced }

def ArgumentConflict.unplaced (c : ArgumentConflict) : ArgumentConflict :=
  { c with location := c.location.unplaced }

namespace Survey

variable (survey : Survey)

theorem collision?_unplaced (base : String) :
    survey.unplaced.collision? base = (survey.collision? base).map (·.unplaced) := by
  unfold collision?
  rw [List.map_findSome?]
  congr 1
  funext name
  change ((survey.declared.map Location.unplaced).get? name).map _ = _
  rw [Table.get?_map]
  cases h : survey.declared.get? name <;> simp only [Function.comp_apply, h] <;> rfl

theorem hasType_unplaced (name : String) : survey.unplaced.hasType name = survey.hasType name := by
  change ((survey.declared.map Location.unplaced).get? name).isSome = _
  rw [Table.get?_map, Option.isSome_map]
  rfl

theorem generate_unplaced (settings : Settings) :
    survey.unplaced.generate settings = (survey.generate settings).mapError (·.unplaced) := by
  have found : survey.unplaced.baseTypes.findSome? survey.unplaced.collision? =
      (survey.baseTypes.findSome? survey.collision?).map (·.unplaced) := by
    rw [List.map_findSome?]
    change survey.baseTypes.findSome? _ = _
    congr 1
    funext base
    exact survey.collision?_unplaced base
  unfold generate
  rw [hasType_unplaced, found]
  cases survey.baseTypes.findSome? survey.collision? <;> rfl

theorem selected?_unplaced (marker type : String) (f : Field) :
    survey.unplaced.selected? marker type f.unplaced = survey.selected? marker type f := by
  unfold selected?
  rw [Field.unplaced, hasDirective_unplaced]
  rfl

end Survey

theorem Field.unplaced_toConnection (f : Field) (base marker : String) :
    (f.toConnection base marker).unplaced = f.unplaced.toConnection base marker := by
  simp only [toConnection, unplaced, List.map_append, List.filter_map]
  rfl

/-- A walk commutes with a map of what it walks over and of its failures if each step does. -/
theorem stepThrough_map {α α' β ε ε' : Type} {g : α → α'} {h : ε → ε'}
    {step : α → α × Except ε (List β)} {step' : α' → α' × Except ε' (List β)} {l : List α}
    (each : ∀ a ∈ l, step' (g a) = (g (step a).1, (step a).2.mapError h)) :
    stepThrough step' (l.map g) =
      ((stepThrough step l).1.map g, (stepThrough step l).2.mapError h) := by
  induction l with
  | nil => rfl
  | cons a rest ih =>
      rw [List.forall_mem_cons] at each
      simp only [List.map_cons, stepThrough, each.1, ih each.2]
      rcases step a with ⟨b, e | bs⟩
      · rfl
      · rcases stepThrough step rest with ⟨others, e | cs⟩ <;> rfl

namespace Survey

variable (survey : Survey) (marker : String)

theorem connectField_unplaced (origin : Origin) (type : String) (f : Field) :
    survey.unplaced.connectField marker .generated type f.unplaced =
      ((survey.connectField marker origin type f).1.unplaced,
        (survey.connectField marker origin type f).2.mapError (·.unplaced)) := by
  unfold connectField
  rw [selected?_unplaced]
  cases survey.selected? marker type f with
  | none => rfl
  | some base =>
      have found : f.unplaced.arguments.find? (isPaginationArgument ·.name) =
          (f.arguments.find? (isPaginationArgument ·.name)).map (·.unplaced) := List.find?_map
      simp only [found]
      cases f.arguments.find? (isPaginationArgument ·.name) with
      | none => exact congrArg (·, _) (f.unplaced_toConnection base marker).symm
      | some a => rfl

theorem connectType_unplaced (origin : Origin) (d : TypeDecl) :
    survey.unplaced.connectType marker .generated d.unplaced =
      ((survey.connectType marker origin d).1.unplaced,
        (survey.connectType marker origin d).2.mapError (·.unplaced)) := by
  obtain ⟨role, position, name, directives, body⟩ := d
  cases body with
  | output kind interfaces fields =>
      have walk := stepThrough_map (l := fields) fun f _ =>
        survey.connectField_unplaced marker origin name f
      simp only [connectType, TypeDecl.unplaced, TypeBody.unplaced, walk]
  | scalar | enum | union | input => rfl

theorem connectDefinition_unplaced (s : Sourced) :
    survey.unplaced.connectDefinition marker s.unplaced =
      ((survey.connectDefinition marker s).1.unplaced,
        (survey.connectDefinition marker s).2.mapError (·.unplaced)) := by
  obtain ⟨origin, definition⟩ := s
  cases definition with
  | schema d => rfl
  | directive d => rfl
  | type d =>
      simp only [connectDefinition, Sourced.unplaced, Definition.unplaced,
        survey.connectType_unplaced marker origin]

theorem connect_unplaced (settings : Settings) (doc : Document) :
    survey.unplaced.connect settings doc.unplaced =
      ((survey.connect settings doc).1.unplaced,
        (survey.connect settings doc).2.mapError (·.unplaced)) :=
  stepThrough_map fun s _ => survey.connectDefinition_unplaced settings.marker s

/-- Generated types have no positions to begin with. -/
theorem unplaced_of_generated {settings : Settings} {d : TypeDecl}
    (generated : d ∈ survey.generatedTypes settings) : d.unplaced = d := by
  have bare : ∀ hint, (Generated.hintDirective settings hint).map (·.unplaced) =
      Generated.hintDirective settings hint := by
    intro hint
    unfold Generated.hintDirective
    split <;> rfl
  rcases (survey.mem_generatedTypes settings).mp generated with
    ⟨rfl, -⟩ | ⟨base, -, hint, rfl, rfl | rfl⟩
  · rfl
  · exact congrArg (Generated.edge base) (bare _)
  · exact congrArg (Generated.connection base) (bare _)

end Survey

def PagingError.unplaced : PagingError → PagingError
  | nameCollision collision => .nameCollision collision.unplaced
  | argumentConflict conflict => .argumentConflict conflict.unplaced
  | invalid errors => .invalid (errors.map (·.unplaced))

def Paged.unplaced (p : Paged) : Paged := { p with document := p.document.unplaced }

namespace Document

variable {doc : Document} {settings : Settings}

theorem withGenerated_unplaced {types : List TypeDecl}
    (generated : (doc.survey settings).generate settings = .ok types) :
    doc.unplaced.withGenerated types settings = (doc.withGenerated types settings).unplaced := by
  obtain ⟨-, rfl⟩ := (Survey.generate_eq_ok_iff _ settings types).mp generated
  have declared : doc.unplaced.definesDirective settings.marker =
      doc.definesDirective settings.marker := by
    rw [Bool.eq_iff_iff, definesDirective_iff, definesDirective_iff, directiveNames,
      definitions_unplaced, List.filterMap_map]
    simp only [Function.comp_def, Definition.directiveName?_unplaced]
    rfl
  have types : ((doc.survey settings).generatedTypes settings).map
        (Sourced.unplaced ∘ fun d => ⟨.generated, .type d⟩) =
      ((doc.survey settings).generatedTypes settings).map fun d => ⟨.generated, .type d⟩ := by
    apply List.map_congr_left
    intro d member
    simp only [Function.comp_apply, Sourced.unplaced, Definition.unplaced,
      Survey.unplaced_of_generated _ member]
  simp only [withGenerated, markerDeclarations, unplaced, List.map_append, List.map_map, types]
  change _ ++ (if doc.unplaced.definesDirective settings.marker then _ else _) ++ _ = _
  rw [declared]
  split <;> rfl

/-- Forgetting positions and origins before paging is forgetting them after it. -/
theorem paginate_unplaced (doc : Document) (settings : Settings) :
    doc.unplaced.paginate settings =
      ((doc.paginate settings).mapError (·.unplaced)).map (·.unplaced) := by
  by_cases once : doc.definedTypes.Nodup
  case neg =>
    have twice : ¬ doc.unplaced.definedTypes.Nodup := by
      rw [definedTypes_unplaced]
      exact once
    rw [paginate_of_redefined once, paginate_of_redefined twice, errors_unplaced]
    rfl
  have once' : doc.unplaced.definedTypes.Nodup := by
    rw [definedTypes_unplaced]
    exact once
  rw [paginate_of_once once, paginate_of_once once', survey_unplaced, Survey.generate_unplaced]
  cases generated : (doc.survey settings).generate settings with
  | error collision => rfl
  | ok types =>
      simp only [Except.mapError, withGenerated_unplaced generated, Survey.connect_unplaced]
      rcases (doc.survey settings).connect settings (doc.withGenerated types settings) with
        ⟨document, conflict | connected⟩
      · rfl
      · simp only [errors_unplaced, List.map_eq_nil_iff]
        split <;> rfl

section SameRuns

variable {r s : Except PagingError Paged}
  (same : (r.mapError (·.unplaced)).map (·.unplaced) = (s.mapError (·.unplaced)).map (·.unplaced))

include same

theorem eq_error_of_unplaced {e : PagingError} (failed : r = .error e) :
    ∃ e', s = .error e' ∧ e'.unplaced = e.unplaced := by
  rw [failed] at same
  cases s with
  | error e' => exact ⟨e', rfl, (Except.error.inj same).symm⟩
  | ok q => cases same

theorem eq_ok_of_unplaced {p : Paged} (paged : r = .ok p) :
    ∃ q, s = .ok q ∧ q.unplaced = p.unplaced := by
  rw [paged] at same
  cases s with
  | error e' => cases same
  | ok q => exact ⟨q, rfl, (Except.ok.inj same).symm⟩

end SameRuns

theorem unplaced_eq_iff_alike {xs ys : Document} : xs.unplaced = ys.unplaced ↔ xs.Alike ys := by
  have through : ∀ zs : Document, zs.unplaced =
      (zs.definitions.map (·.unplaced)).map fun d => ⟨.generated, d⟩ := by
    intro zs
    unfold unplaced definitions
    rw [List.map_map, List.map_map]
    rfl
  constructor
  · intro same
    unfold Alike
    rw [← definitions_unplaced, same, definitions_unplaced]
  · intro alike
    rw [through, alike, ← through]

/-- Paging documents that differ in positions and origins only fails alike, but for the locations it
reports, or makes documents that differ in these only and have the same text. -/
theorem paginate_alike {xs ys : Document} (alike : xs.Alike ys) (settings : Settings) :
    (∀ e, xs.paginate settings = .error e →
      ∃ e', ys.paginate settings = .error e' ∧ e'.unplaced = e.unplaced) ∧
    ∀ p, xs.paginate settings = .ok p →
      ∃ q, ys.paginate settings = .ok q ∧ q.generated = p.generated ∧
        q.connected = p.connected ∧ p.document.Alike q.document ∧ q.sdl = p.sdl := by
  have run := paginate_unplaced xs settings
  rw [unplaced_eq_iff_alike.mpr alike, paginate_unplaced ys settings] at run
  constructor
  · intro e failed
    rw [failed] at run
    cases other : ys.paginate settings with
    | error e' =>
        rw [other] at run
        exact ⟨e', rfl, Except.error.inj run⟩
    | ok q =>
        rw [other] at run
        cases run
  · intro p paged
    rw [paged] at run
    cases other : ys.paginate settings with
    | error e' =>
        rw [other] at run
        cases run
    | ok q =>
        rw [other] at run
        have same : q.unplaced = p.unplaced := Except.ok.inj run
        have documents : p.document.Alike q.document :=
          unplaced_eq_iff_alike.mp (congrArg Paged.document same).symm
        have generated : q.unplaced.generated = p.unplaced.generated := by rw [same]
        have connected : q.unplaced.connected = p.unplaced.connected := by rw [same]
        exact ⟨q, rfl, generated, connected, documents, (Sdl.print_congr documents).symm⟩

/-- A query for a list of users, and the users that it lists. -/
def usersQuery (line : Nat) : List Definition :=
  [.type ⟨.definition none, ⟨line, 1⟩, "Query", [], .output .object []
    [⟨⟨line, 14⟩, none, "users", [], .list (.named "User"), [⟨⟨line, 28⟩, "connection", []⟩]⟩]⟩]

def usersType (line : Nat) : List Definition :=
  [.type ⟨.definition none, ⟨line, 1⟩, "User", [], .output .object []
    [⟨⟨line, 13⟩, none, "id", [], .nonNull (.named "ID"), []⟩]⟩]

theorem paginate_alike_usersQuery :
    ∃ p q,
      (Sources.empty.add (some "schema.graphql") (usersQuery 1 ++ usersType 2)).document.paginate
        .default = .ok p ∧
      ((Sources.empty.add none (usersQuery 1)).add (some "user.graphql")
        (usersType 1)).document.paginate .default = .ok q ∧
      q.generated = p.generated ∧ q.connected = p.connected ∧ p.document.Alike q.document ∧
      q.sdl = p.sdl := by
  have alike : (Sources.empty.add (some "schema.graphql")
        (usersQuery 1 ++ usersType 2)).document.Alike
      ((Sources.empty.add none (usersQuery 1)).add (some "user.graphql")
        (usersType 1)).document := rfl
  have paged : (Sources.empty.add (some "schema.graphql")
      (usersQuery 1 ++ usersType 2)).document.paginate .default = .ok _ := rfl
  obtain ⟨q, other, same⟩ := (paginate_alike alike .default).2 _ paged
  exact ⟨_, q, paged, other, same⟩

end Document

end PagedSchema
