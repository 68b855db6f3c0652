/-
An object or interface type whose last fields stand in an extension right after it. Paging such a
document ends as paging the document with the type in one piece does, and gives the same.
-/
import PagedSchema.Proofs.Paginating
import PagedSchema.Proofs.UnplacedPaging

namespace PagedSchema

/-- An object or interface type apart from its fields. -/
structure OutputHead where
  description : Option String
  position : Position
  name : String
  directives : List Directive
  kind : OutputKind
  interfaces : List String

namespace OutputHead

def withFields (h : OutputHead) (fields : List Field) : TypeDecl :=
  ⟨.definition h.description, h.position, h.name, h.directives,
    .output h.kind h.interfaces fields⟩

def extendedBy (h : OutputHead) (position : Position) (fields : List Field) : TypeDecl :=
  ⟨.extension, position, h.name, [], .output h.kind [] fields⟩

end OutputHead

/-- An object or interface type at its place in a document. -/
structure OutputPlace where
  before : Document
  origin : Origin
  head : OutputHead
  after : Document

namespace OutputPlace

/-- The document with the type in one piece. -/
def whole (place : OutputPlace) (fields : List Field) : Document :=
  place.before ++ ⟨place.origin, .type (place.head.withFields fields)⟩ :: place.after

/-- The document with the type in two pieces. The second one has an origin and a position of its
own. -/
def split (place : OutputPlace) (origin : Origin) (position : Position)
    (first rest : List Field) : Document :=
  place.before ++ ⟨place.origin, .type (place.head.withFields first)⟩ ::
    ⟨origin, .type (place.head.extendedBy position rest)⟩ :: place.after

def behind (front : Document) (place : OutputPlace) : OutputPlace :=
  { place with before := front ++ place.before }

def mapFields (g : String → Field → Field) (place : OutputPlace) : OutputPlace :=
  { place with before := place.before.mapFields g, after := place.after.mapFields g }

variable (place : OutputPlace) (origin : Origin) (position : Position) (first rest : List Field)

theorem whole_behind (front : Document) :
    (place.behind front).whole first = front ++ place.whole first := List.append_assoc ..

theorem split_behind (front : Document) :
    (place.behind front).split origin position first rest =
      front ++ place.split origin position first rest := List.append_assoc ..

theorem whole_mapFields (g : String → Field → Field) :
    (place.whole first).mapFields g =
      (place.mapFields g).whole (first.map (g place.head.name)) :=
  Document.mapFields_append _ _

theorem split_mapFields (g : String → Field → Field) :
    (place.split origin position first rest).mapFields g =
      (place.mapFields g).split origin position (first.map (g place.head.name))
        (rest.map (g place.head.name)) :=
  Document.mapFields_append _ _

/-- Both documents define the same names at the same places. -/
theorem definitionEntries_split :
    (place.split origin position first rest).definitionEntries =
      (place.whole (first ++ rest)).definitionEntries := by
  unfold split whole Document.definitionEntries
  rw [List.filterMap_append, List.filterMap_append]
  rfl

theorem name_mem_definedTypes_whole (fields : List Field) :
    place.head.name ∈ (place.whole fields).definedTypes := by
  unfold whole
  rw [Document.definedTypes_append]
  exact List.mem_append_right _ List.mem_cons_self

theorem outputFields_split :
    (place.split origin position first rest).outputFields =
      (place.whole (first ++ rest)).outputFields := by
  unfold split whole
  rw [Document.outputFields_append, Document.outputFields_append]
  congr 1
  change first.map _ ++ (rest.map _ ++ _) = (first ++ rest).map _ ++ _
  rw [List.map_append, List.append_assoc]
  rfl

section Errors

open Check Document

/-- The checks of the two documents differ in that of the extension only. -/
theorem exists_checks_split :
    ∃ xs ys location,
      (place.split place.origin position first rest).checks =
        xs ++ .extends place.head.name location :: ys ∧
      (place.whole (first ++ rest)).checks = xs ++ ys := by
  let ofFields := Check.ofField place.origin place.head.name
  refine ⟨place.before.checks ++ (place.head.interfaces.map
      (.refers · place.head.name (place.origin.locate place.head.position)) ++
        first.flatMap ofFields),
    rest.flatMap ofFields ++ place.after.checks, place.origin.locate position, ?_, ?_⟩
  · unfold split
    rw [checks_append]
    change _ ++ ((_ ++ first.flatMap ofFields) ++
      ((_ :: ([] ++ rest.flatMap ofFields)) ++ place.after.checks)) = _
    simp only [List.append_assoc, List.nil_append, List.cons_append]
    rfl
  · unfold whole
    rw [checks_append]
    change _ ++ ((_ ++ (first ++ rest).flatMap ofFields) ++ place.after.checks) = _
    simp only [List.append_assoc, List.flatMap_append]
    rfl

theorem errors_split :
    (place.split place.origin position first rest).errors =
      (place.whole (first ++ rest)).errors := by
  obtain ⟨xs, ys, location, ofSplit, ofWhole⟩ := place.exists_checks_split position first rest
  have passes (seen : Table Coordinate Location) :
      failure? (place.whole (first ++ rest)).definedTypes seen
        (.extends place.head.name location) = none :=
    (passes_extends _ _ _).mpr (place.name_mem_definedTypes_whole (first ++ rest))
  have entries := place.definitionEntries_split place.origin position first rest
  unfold errors
  rw [typeDefinitions_map_name, typeDefinitions_map_name, definedTypes_congr entries,
    duplicateDefinitions_congr entries, ofSplit, ofWhole, failedChecks_append,
    failedChecks_append, failedChecks_cons, passes]
  rfl

end Errors

section Survey

variable (settings : Settings)

theorem types_whole (fields : List Field) :
    (place.whole fields).types =
      place.before.types ++ ⟨place.origin, place.head.withFields fields⟩ :: place.after.types := by
  unfold whole Document.types
  rw [List.filterMap_append]
  rfl

theorem types_split :
    (place.split origin position first rest).types =
      place.before.types ++ ⟨place.origin, place.head.withFields first⟩ ::
        ⟨origin, place.head.extendedBy position rest⟩ :: place.after.types := by
  unfold split Document.types
  rw [List.filterMap_append]
  rfl

/-- The extension has no hint of its own, and the hints of its fields follow those of the others. -/
theorem hintReadings_split (hints : Option CacheHints) :
    (place.split origin position first rest).hintReadings hints =
      (place.whole (first ++ rest)).hintReadings hints := by
  cases hints with
  | none => rfl
  | some hints =>
      have own : ∀ name : String, (readInt32? ([] : List Directive) hints.directive
          hints.argument).map (name, ·) = none := fun _ => rfl
      unfold Document.hintReadings
      simp only [types_split, types_whole, List.flatMap_append, List.flatMap_cons]
      congr 1
      rw [← List.append_assoc]
      congr 1
      simp only [Document.typeHints, OutputHead.withFields, OutputHead.extendedBy,
        TypeDecl.outputFields, List.filterMap_append, own, Option.toList_none, List.nil_append,
        List.append_assoc]

/-- Neither survey tells where the extension stands, as the type is declared before it. -/
theorem survey_split :
    (place.split origin position first rest).survey settings =
      (place.whole (first ++ rest)).survey settings := by
  have declared : Table.ofFirst ((place.split origin position first rest).types.map fun t =>
        (t.decl.name, t.location)) =
      Table.ofFirst ((place.whole (first ++ rest)).types.map fun t =>
        (t.decl.name, t.location)) := by
    rw [types_split, types_whole, List.map_append, List.map_append]
    exact Table.ofFirst_append_twice _ _ _ _ _
  have defined : (place.split origin position first rest).typeDefinitions.map
        (fun t => (t.decl.name, t.location)) =
      (place.whole (first ++ rest)).typeDefinitions.map fun t => (t.decl.name, t.location) := by
    unfold Document.typeDefinitions
    rw [types_split, types_whole, List.filter_append, List.filter_append, List.map_append,
      List.map_append]
    rfl
  unfold Document.survey
  simp only [declared, defined, Document.markedFields, outputFields_split, hintReadings_split]

end Survey

section Paging

open Document

variable (settings : Settings)

theorem front_split :
    (place.split origin position first rest).front settings =
      (place.whole (first ++ rest)).front settings := by
  have declared : (place.split origin position first rest).directiveNames =
      (place.whole (first ++ rest)).directiveNames := by
    rw [← filterMap_directive?_definedNames, ← map_fst_definitionEntries, definitionEntries_split,
      map_fst_definitionEntries, filterMap_directive?_definedNames]
  have defines : (place.split origin position first rest).definesDirective settings.marker =
      (place.whole (first ++ rest)).definesDirective settings.marker := by
    rw [Bool.eq_iff_iff, definesDirective_iff, definesDirective_iff, declared]
  unfold front markerDeclarations
  rw [survey_split, defines]

/-- The walk over the two pieces has the results of the walk over the one. -/
theorem snd_connect_split (survey : Survey) :
    (survey.connect settings (place.split place.origin position first rest)).2 =
      (survey.connect settings (place.whole (first ++ rest))).2 := by
  let step := survey.connectDefinition settings.marker
  let fieldStep := survey.connectField settings.marker place.origin place.head.name
  have pieces : (stepThrough step [⟨place.origin, .type (place.head.withFields first)⟩,
        ⟨place.origin, .type (place.head.extendedBy position rest)⟩]).2 =
      (stepThrough step [⟨place.origin, .type (place.head.withFields (first ++ rest))⟩]).2 := by
    rw [← List.singleton_append, snd_stepThrough_append]
    simp only [snd_stepThrough_singleton]
    change (stepThrough fieldStep first).2.bind
      (fun bs => (stepThrough fieldStep rest).2.map (bs ++ ·)) =
        (stepThrough fieldStep (first ++ rest)).2
    rw [snd_stepThrough_append]
  change (stepThrough step (place.before ++ ([_, _] ++ place.after))).2 =
    (stepThrough step (place.before ++ ([_] ++ place.after))).2
  simp only [snd_stepThrough_append, pieces]

theorem collides_split_iff (marker : String) :
    (place.split origin position first rest).Collides marker ↔
      (place.whole (first ++ rest)).Collides marker := by
  rw [← not_iff_not, ← free_survey_iff _ ⟨marker, none⟩, ← free_survey_iff _ ⟨marker, none⟩,
    survey_split]

theorem conflicts_split_iff (marker : String) :
    (place.split origin position first rest).Conflicts marker ↔
      (place.whole (first ++ rest)).Conflicts marker := by
  unfold Conflicts markedDeclarations
  rw [outputFields_split]

theorem errors_paged_split :
    errors ((place.split place.origin position first rest).front settings ++
        (place.split place.origin position first rest).connected settings) =
      errors ((place.whole (first ++ rest)).front settings ++
        (place.whole (first ++ rest)).connected settings) := by
  unfold connected
  rw [front_split, survey_split, split_mapFields, whole_mapFields, List.map_append,
    ← split_behind, ← whole_behind]
  exact errors_split _ _ _ _

/-- With both pieces from one source, paging them fails with the error with which paging the type
in one piece does, or pages the same fields and generates the same types. -/
theorem paginate_split_same :
    (place.split place.origin position first rest).paginate settings =
      ((place.whole (first ++ rest)).paginate settings).map fun p =>
        { p with
          document := (place.split place.origin position first rest).front settings ++
            (place.split place.origin position first rest).connected settings } := by
  have definedTypes := definedTypes_congr
    (place.definitionEntries_split place.origin position first rest)
  by_cases once : (place.whole (first ++ rest)).definedTypes.Nodup
  case neg =>
    have twice := once
    rw [← definedTypes] at twice
    rw [paginate_of_redefined once, paginate_of_redefined twice, errors_split]
    rfl
  have once' := once
  rw [← definedTypes] at once'
  by_cases collides : (place.whole (first ++ rest)).Collides settings.marker
  case pos =>
    obtain ⟨collision, failed⟩ := Survey.generate_of_not_free _ settings
      (mt ((place.whole (first ++ rest)).free_survey_iff settings).mp (not_not.mpr collides))
    rw [paginate_of_once once, paginate_of_once once', survey_split, failed]
    rfl
  have free := mt (place.collides_split_iff place.origin position first rest _).mp collides
  by_cases conflicts : (place.whole (first ++ rest)).Conflicts settings.marker
  case pos =>
    obtain ⟨conflict, failed⟩ := connect_of_conflicts conflicts
    have failed' := failed
    rw [← snd_connect_split _ position, ← survey_split _ place.origin position] at failed'
    rw [paginate_of_conflict once collides failed, paginate_of_conflict once' free failed']
    rfl
  have clear := mt (place.conflicts_split_iff place.origin position first rest _).mp conflicts
  rw [paginate_of_clear once collides conflicts, paginate_of_clear once' free clear,
    errors_paged_split]
  split
  · unfold markedFields
    rw [survey_split, outputFields_split]
    rfl
  · rfl

/-- Where the second piece comes from shows in locations only. -/
theorem split_alike :
    (place.split place.origin position first rest).Alike
      (place.split origin position first rest) := by
  apply Alike.of_definitions
  unfold split definitions
  rw [List.map_append, List.map_append]
  rfl

theorem document_whole {p : Paged} {fields : List Field}
    (paged : (place.whole fields).paginate settings = .ok p) :
    p.document = ((place.mapFields fun _ f => f.paged settings.marker).behind
      ((place.whole fields).front settings)).whole (fields.map (·.paged settings.marker)) := by
  have fieldsOnce := (of_paginate_eq_ok paged).2.2.fieldsOnce
  rw [eq_of_paginate_eq_ok paged, connected_eq_mapFields fieldsOnce, whole_mapFields,
    ← whole_behind]

theorem document_split {q : Paged}
    (paged : (place.split origin position first rest).paginate settings = .ok q) :
    q.document = ((place.mapFields fun _ f => f.paged settings.marker).behind
      ((place.split origin position first rest).front settings)).split origin position
        (first.map (·.paged settings.marker)) (rest.map (·.paged settings.marker)) := by
  have fieldsOnce := (of_paginate_eq_ok paged).2.2.fieldsOnce
  rw [eq_of_paginate_eq_ok paged, connected_eq_mapFields fieldsOnce, split_mapFields,
    ← split_behind]

/-- The last fields of an object or interface type may stand in an extension right after it. Paging
fails then with the same error, but for the locations it reports, or it generates the same types,
pages the same fields, and makes of each piece what it makes of its fields in the whole type. -/
theorem paginate_split :
    (∀ e, (place.whole (first ++ rest)).paginate settings = .error e →
      ∃ e', (place.split origin position first rest).paginate settings = .error e' ∧
        e'.unplaced = e.unplaced) ∧
    ∀ p, (place.whole (first ++ rest)).paginate settings = .ok p →
      ∃ q types place',
        (place.split origin position first rest).paginate settings = .ok q ∧
        ((place.whole (first ++ rest)).survey settings).generate settings = .ok types ∧
        ((place.split origin position first rest).survey settings).generate settings = .ok types ∧
        q.generated = p.generated ∧ q.connected = p.connected ∧
        place' = (place.mapFields fun _ f => f.paged settings.marker).behind
          (ofGenerated types ++ (place.whole (first ++ rest)).markerDeclarations settings.marker) ∧
        p.document = place'.whole
          (first.map (·.paged settings.marker) ++ rest.map (·.paged settings.marker)) ∧
        q.document = place'.split origin position
          (first.map (·.paged settings.marker)) (rest.map (·.paged settings.marker)) := by
  have run := paginate_unplaced (place.split place.origin position first rest) settings
  rw [unplaced_eq_iff_alike.mpr (place.split_alike origin position first rest),
    paginate_unplaced] at run
  have together := place.paginate_split_same position first rest settings
  constructor
  · intro e failed
    rw [failed] at together
    exact eq_error_of_unplaced run.symm together
  · intro p paged
    rw [paged] at together
    obtain ⟨q, other, same⟩ := eq_ok_of_unplaced run.symm together
    have names := congrArg Paged.generated same
    have connected := congrArg Paged.connected same
    change q.generated = p.generated at names
    change q.connected = p.connected at connected
    have free := (free_survey_iff _ settings).mpr (of_paginate_eq_ok paged).1
    have generated := Survey.generate_of_free _ settings free
    refine ⟨q, _, _, other, generated, ?_, names, connected, rfl, ?_, ?_⟩
    · rw [survey_split]
      exact generated
    · rw [document_whole _ _ paged, List.map_append]
      rfl
    · rw [document_split _ _ _ _ _ _ other, front_split]
      rfl

/-- Users, with a hint of their own, between other types. -/
def teamPlace : OutputPlace where
  before := ofSource "schema.graphql"
    [.type ⟨.definition none, ⟨1, 1⟩, "Team", [⟨⟨1, 11⟩, "cacheControl", [("maxAge", .int 60)]⟩],
      .output .object [] [⟨⟨1, 40⟩, none, "lead", [], .named "User", []⟩]⟩]
  origin := .source "schema.graphql"
  head := ⟨none, ⟨2, 1⟩, "User", [], .interface, []⟩
  after := ofSource "schema.graphql"
    [.type ⟨.extension, ⟨6, 8⟩, "User", [], .output .interface []
      [⟨⟨6, 25⟩, none, "name", [], .named "String", []⟩]⟩]

def friendsField : Field :=
  ⟨⟨3, 3⟩, none, "friends", [], .list (.named "User"), [⟨⟨3, 19⟩, "connection", []⟩]⟩

def teamsField : Field :=
  ⟨⟨4, 3⟩, none, "teams", [], .list (.named "Team"), [⟨⟨4, 17⟩, "connection", []⟩]⟩

theorem paginate_split_teamPlace :
    ∃ p q, ∃ types : List TypeDecl, ∃ place' : OutputPlace,
      (teamPlace.whole [friendsField, teamsField]).paginate
        (Settings.default.withCacheHints .default) = .ok p ∧
      (teamPlace.split (.source "teams.graphql") ⟨1, 8⟩ [friendsField] [teamsField]).paginate
        (Settings.default.withCacheHints .default) = .ok q ∧
      types.map (·.name) =
        ["PageInfo", "UserEdge", "UserConnection", "TeamEdge", "TeamConnection"] ∧
      q.connected = [⟨"User", "friends"⟩, ⟨"User", "teams"⟩] ∧
      p.document = place'.whole [friendsField.paged "connection", teamsField.paged "connection"] ∧
      q.document = place'.split (.source "teams.graphql") ⟨1, 8⟩
        [friendsField.paged "connection"] [teamsField.paged "connection"] := by
  have paged : (teamPlace.whole ([friendsField] ++ [teamsField])).paginate
      (Settings.default.withCacheHints .default) = .ok _ := rfl
  obtain ⟨q, types, place', other, generated, -, -, connected, -, first, second⟩ :=
    (teamPlace.paginate_split (.source "teams.graphql") ⟨1, 8⟩ [friendsField] [teamsField]
      (Settings.default.withCacheHints .default)).2 _ paged
  have names := congrArg (fun ts : Except NameCollision (List TypeDecl) =>
    ts.toOption.map fun ts => ts.map (·.name)) generated
  exact ⟨_, q, types, place', paged, other, (Option.some.inj names).symm, connected, first, second⟩

end Paging

end OutputPlace

end PagedSchema
