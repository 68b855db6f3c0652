/-
Where errors point to. An error names places that a source gave to a definition or to one of its
parts, but for the references that generated types make.
-/
import PagedSchema.Proofs.Loading
import PagedSchema.Proofs.PagedErrors
import PagedSchema.Proofs.Paginating
import PagedSchema.Proofs.Runs

namespace PagedSchema

/-- The locations that the message of an error names. -/
def SchemaError.locations : SchemaError → List Location
  | duplicateArgument _ _ location => [location]
  | duplicateDirective _ first second => [first, second]
  | duplicateField _ first second => [first, second]
  | duplicateType _ first second => [first, second]
  | undefinedExtended _ location => [location]
  | undefinedType _ _ location => [location]

def PagingError.locations : PagingError → List Location
  | nameCollision collision => [collision.existing]
  | argumentConflict conflict => [conflict.location]
  | invalid errors => errors.flatMap (·.locations)

def Field.positions (f : Field) : List Position := f.position :: f.arguments.map (·.position)

def TypeBody.positions : TypeBody → List Position
  | .output _ _ fields => fields.flatMap (·.positions)
  | .input fields => fields.map (·.position)
  | .scalar | .union _ | .enum _ => []

/-- The positions of a definition and of its fields, arguments and input values. -/
def Definition.positions : Definition → List Position
  | .schema d => [d.position]
  | .directive d => d.position :: d.arguments.map (·.position)
  | .type d => d.position :: d.body.positions

/-- Some definition gives the location to itself or to a part of it. -/
def Document.Holds (doc : Document) (location : Location) : Prop :=
  ∃ s ∈ doc, ∃ p ∈ s.definition.positions, location = s.origin.locate p

/-- An entry that repeats a key comes with values of the list, or with one seen before. -/
theorem of_mem_repeatsFrom {κ α : Type} [DecidableEq κ] {P : α → Prop} {seen : Table κ α}
    {entries : List (κ × α)} (before : ∀ k v, seen.get? k = some v → P v)
    (listed : ∀ entry ∈ entries, P entry.2) {r : κ × α × α}
    (member : r ∈ repeatsFrom seen entries) : P r.2.1 ∧ P r.2.2 := by
  induction entries generalizing seen with
  | nil => cases member
  | cons entry rest ih =>
      obtain ⟨k, v⟩ := entry
      rw [List.forall_mem_cons] at listed
      simp only [repeatsFrom] at member
      cases known : seen.get? k with
      | some first =>
          simp only [known] at member
          rcases List.mem_cons.mp member with rfl | later
          · exact ⟨before k first known, listed.1⟩
          · exact ih before listed.2 later
      | none =>
          simp only [known] at member
          refine ih ?_ listed.2 member
          intro j w found
          rw [Table.get?_insert] at found
          split at found
          · cases found
            exact listed.1
          · exact before j w found

namespace Check

def location : Check → Location
  | declares _ location => location
  | refers _ _ location => location
  | repeatsArgument _ _ location => location
  | «extends» _ location => location

variable {P : Location → Prop} {defined : List String} {seen : Table Coordinate Location}

/-- A check that fails points to its own place, and perhaps to one seen before. -/
theorem locations_of_failure? {c : Check} {e : SchemaError}
    (failed : c.failure? defined seen = some e) :
    e.locations = [c.location] ∨
      ∃ field first, seen.get? field = some first ∧ e.locations = [first, c.location] := by
  cases c with
  | declares field location =>
      obtain ⟨first, known, rfl⟩ := Option.map_eq_some_iff.mp failed
      exact .inr ⟨field, first, known, rfl⟩
  | repeatsArgument field argument location =>
      cases failed
      exact .inl rfl
  | refers name referencedBy location =>
      simp only [failure?] at failed
      split at failed
      · cases failed
      · cases failed
        exact .inl rfl
  | «extends» type location =>
      simp only [failure?] at failed
      split at failed
      · cases failed
      · cases failed
        exact .inl rfl

theorem of_mem_locations_of_failure? {c : Check} {e : SchemaError}
    (before : ∀ field l, seen.get? field = some l → P l) (own : P c.location)
    (failed : c.failure? defined seen = some e) : ∀ l ∈ e.locations, P l := by
  intro l member
  rcases locations_of_failure? failed with alone | ⟨field, first, known, both⟩
  · rw [alone, List.mem_singleton] at member
    exact member ▸ own
  · rw [both, List.mem_cons, List.mem_singleton] at member
    rcases member with rfl | rfl
    · exact before field l known
    · exact own

theorem of_get?_record {c : Check} (before : ∀ field l, seen.get? field = some l → P l)
    (own : P c.location) : ∀ field l, (c.record seen).get? field = some l → P l := by
  cases c with
  | declares declared location =>
      intro field l found
      simp only [record] at found
      split at found
      · exact before field l found
      · rw [Table.get?_insert] at found
        split at found
        · cases found
          exact own
        · exact before field l found
  | refers => exact before
  | repeatsArgument => exact before
  | «extends» => exact before

theorem of_mem_failedChecks {checks : List Check}
    (before : ∀ field l, seen.get? field = some l → P l) (each : ∀ c ∈ checks, P c.location)
    {e : SchemaError} (member : e ∈ Document.failedChecks defined seen checks) :
    ∀ l ∈ e.locations, P l := by
  induction checks generalizing seen with
  | nil => cases member
  | cons c rest ih =>
      rw [List.forall_mem_cons] at each
      rw [Document.failedChecks_cons, List.mem_append, Option.mem_toList] at member
      rcases member with first | later
      · exact of_mem_locations_of_failure? before each.1 first
      · exact ih (of_get?_record before each.1) each.2 later

theorem location_ofInputs {origin : Origin} {owner : String} {values : List InputValue} {c : Check}
    (member : c ∈ ofInputs origin owner values) :
    ∃ p ∈ values.map (·.position), c.location = origin.locate p := by
  obtain ⟨v, present, rfl⟩ := List.mem_map.mp member
  exact ⟨v.position, List.mem_map_of_mem present, rfl⟩

theorem location_repeatedArguments {origin : Origin} {field : Coordinate}
    {arguments : List InputValue} {c : Check}
    (member : c ∈ repeatedArguments origin field arguments) :
    ∃ p ∈ arguments.map (·.position), c.location = origin.locate p := by
  obtain ⟨⟨name, first, second⟩, repeated, rfl⟩ := List.mem_map.mp member
  refine (of_mem_repeatsFrom (P := fun l => ∃ p ∈ arguments.map (·.position), l = origin.locate p)
    ?_ ?_ repeated).2
  · intro k v found
    cases found
  · intro entry listed
    obtain ⟨a, present, rfl⟩ := List.mem_map.mp listed
    exact ⟨a.position, List.mem_map_of_mem present, rfl⟩

theorem location_ofField {origin : Origin} {type : String} {f : Field} {c : Check}
    (member : c ∈ ofField origin type f) : ∃ p ∈ f.positions, c.location = origin.locate p := by
  simp only [ofField, List.mem_append, List.mem_cons, List.not_mem_nil, or_false] at member
  rcases member with ((rfl | rfl) | repeated) | argument
  · exact ⟨f.position, List.mem_cons_self, rfl⟩
  · exact ⟨f.position, List.mem_cons_self, rfl⟩
  · obtain ⟨p, present, same⟩ := location_repeatedArguments repeated
    exact ⟨p, List.mem_cons_of_mem _ present, same⟩
  · obtain ⟨p, present, same⟩ := location_ofInputs argument
    exact ⟨p, List.mem_cons_of_mem _ present, same⟩

/-- The checks of a body point to its parts, or to where the type stands. -/
theorem location_ofTypeBody {origin : Origin} {type : String} {place : Location} {body : TypeBody}
    {c : Check} (member : c ∈ ofTypeBody origin type place body) :
    c.location = place ∨ ∃ p ∈ body.positions, c.location = origin.locate p := by
  cases body with
  | scalar => cases member
  | enum values => cases member
  | union members =>
      obtain ⟨name, -, rfl⟩ := List.mem_map.mp member
      exact .inl rfl
  | output kind interfaces fields =>
      rcases List.mem_append.mp member with implemented | declared
      · obtain ⟨name, -, rfl⟩ := List.mem_map.mp implemented
        exact .inl rfl
      · obtain ⟨f, present, inside⟩ := List.mem_flatMap.mp declared
        obtain ⟨p, given, same⟩ := location_ofField inside
        exact .inr ⟨p, List.mem_flatMap.mpr ⟨f, present, given⟩, same⟩
  | input fields =>
      rcases List.mem_append.mp member with declared | typed
      · obtain ⟨f, present, rfl⟩ := List.mem_map.mp declared
        exact .inr ⟨f.position, List.mem_map_of_mem present, rfl⟩
      · exact .inr (location_ofInputs typed)

theorem location_ofSchema {d : SchemaDecl} {place : Location} {c : Check}
    (member : c ∈ ofSchema d place) : c.location = place := by
  simp only [ofSchema, List.mem_append, Option.mem_toList, Option.map_eq_some_iff] at member
  rcases member with (⟨type, -, rfl⟩ | ⟨type, -, rfl⟩) | ⟨type, -, rfl⟩ <;> rfl

theorem location_ofDefinition {s : Sourced} {c : Check} (member : c ∈ ofDefinition s) :
    ∃ p ∈ s.definition.positions, c.location = s.origin.locate p := by
  obtain ⟨origin, definition⟩ := s
  cases definition with
  | schema d => exact ⟨d.position, List.mem_singleton_self _, location_ofSchema member⟩
  | directive d =>
      obtain ⟨p, present, same⟩ := location_ofInputs member
      exact ⟨p, List.mem_cons_of_mem _ present, same⟩
  | type d =>
      rcases List.mem_append.mp member with extended | body
      · split at extended
        · rw [List.mem_singleton.mp extended]
          exact ⟨d.position, List.mem_cons_self, rfl⟩
        · cases extended
      · rcases location_ofTypeBody body with same | ⟨p, present, same⟩
        · exact ⟨d.position, List.mem_cons_self, same⟩
        · exact ⟨p, List.mem_cons_of_mem _ present, same⟩

end Check

namespace Document

variable {doc : Document} {settings : Settings}

theorem holds_location {s : Sourced} (member : s ∈ doc) : doc.Holds s.location := by
  refine ⟨s, member, s.definition.position, ?_, rfl⟩
  cases s.definition with
  | schema d => exact List.mem_singleton_self _
  | directive d => exact List.mem_cons_self
  | type d => exact List.mem_cons_self

theorem holds_of_mem_types {t : SourcedType} (member : t ∈ doc.types) : doc.Holds t.location := by
  obtain ⟨s, present, same⟩ := List.mem_filterMap.mp member
  obtain ⟨d, type, rfl⟩ := Option.map_eq_some_iff.mp same
  have located := holds_location present
  obtain ⟨origin, definition⟩ := s
  cases definition with
  | type decl =>
      cases type
      exact located
  | schema | directive => cases type

/-- Field errors of any set of defined types point into the document. -/
theorem holds_of_mem_failedChecks {defined : List String} {e : SchemaError}
    (member : e ∈ failedChecks defined .empty doc.checks) : ∀ l ∈ e.locations, doc.Holds l := by
  refine Check.of_mem_failedChecks ?_ ?_ member
  · intro field l found
    cases found
  · intro c listed
    obtain ⟨s, present, inside⟩ := List.mem_flatMap.mp listed
    obtain ⟨p, given, same⟩ := Check.location_ofDefinition inside
    exact ⟨s, present, p, given, same⟩

theorem holds_of_mem_duplicateDefinitions {e : SchemaError}
    (member : e ∈ doc.duplicateDefinitions) : ∀ l ∈ e.locations, doc.Holds l := by
  obtain ⟨⟨name, first, second⟩, repeated, rfl⟩ := List.mem_map.mp member
  have held : doc.Holds first ∧ doc.Holds second := by
    refine of_mem_repeatsFrom (P := doc.Holds) ?_ ?_ repeated
    · intro k v found
      cases found
    · intro entry listed
      obtain ⟨s, present, defined⟩ := List.mem_filterMap.mp listed
      obtain ⟨name, -, rfl⟩ := Option.map_eq_some_iff.mp defined
      exact holds_location present
  intro l named
  have either : l = first ∨ l = second := by
    cases name <;> simpa [DefinedName.duplicate, SchemaError.locations] using named
  rcases either with rfl | rfl
  · exact held.1
  · exact held.2

theorem holds_of_mem_errors {e : SchemaError} (member : e ∈ doc.errors) :
    ∀ l ∈ e.locations, doc.Holds l := by
  rcases List.mem_append.mp member with duplicate | failed
  · exact holds_of_mem_duplicateDefinitions duplicate
  · exact holds_of_mem_failedChecks failed

/-- A generated name collides with a type of the document. -/
theorem holds_of_generate_eq_error {collision : NameCollision}
    (failed : (doc.survey settings).generate settings = .error collision) :
    doc.Holds collision.existing := by
  rw [Survey.generate_eq_error_iff] at failed
  obtain ⟨base, -, found⟩ := List.exists_of_findSome?_eq_some failed
  obtain ⟨name, -, taken⟩ := List.exists_of_findSome?_eq_some found
  obtain ⟨existing, declared, rfl⟩ := Option.map_eq_some_iff.mp taken
  change (Table.ofFirst _).get? name = _ at declared
  rw [Table.get?_ofFirst] at declared
  obtain ⟨t, present, same⟩ := List.mem_map.mp (mem_map_fst_of_lookup declared)
  cases same
  exact holds_of_mem_types present

end Document

/-- The conflict is where the argument of the field stands. -/
theorem Survey.holds_of_connect_eq_error {survey : Survey} {settings : Settings} {doc : Document}
    {conflict : ArgumentConflict} (failed : (survey.connect settings doc).2 = .error conflict) :
    doc.Holds conflict.location := by
  obtain ⟨place, a, rfl, stops, -, rfl⟩ := connect_eq_error_iff.mp (Prod.ext rfl failed)
  obtain ⟨before, after, arguments, -⟩ := stops.argument
  have argument : a ∈ place.field.arguments := by
    rw [arguments]
    exact List.mem_append_right before List.mem_cons_self
  have field : place.field ∈ place.earlier ++ place.field :: place.later :=
    List.mem_append_right place.earlier List.mem_cons_self
  refine ⟨⟨place.origin, .type place.decl⟩, List.mem_append_right place.before List.mem_cons_self,
    a.position, List.mem_cons_of_mem _ (List.mem_flatMap.mpr ⟨place.field, field, ?_⟩), rfl⟩
  exact List.mem_cons_of_mem _ (List.mem_map_of_mem argument)

/-- The error is about a reference of a generated edge to its node, or of a generated connection to
page information. -/
inductive GeneratedReference (types : List TypeDecl) : SchemaError → Prop
  | node (base : String) (generated : edgeName base ∈ types.map (·.name)) :
    GeneratedReference types
      (.undefinedType base (Coordinate.text ⟨edgeName base, "node"⟩) .generated)
  | pageInfo (base : String) (generated : connectionName base ∈ types.map (·.name)) :
    GeneratedReference types
      (.undefinedType pageInfoName (Coordinate.text ⟨connectionName base, "pageInfo"⟩) .generated)

namespace Document

variable {doc : Document} {settings : Settings}

theorem generatedReference_of_mem_generatedErrors {types : List TypeDecl} {base : String}
    (generated : ∀ name ∈ pairNames base, name ∈ types.map (·.name)) {names : List String}
    {e : SchemaError} (member : e ∈ doc.generatedErrors names base) :
    GeneratedReference types e := by
  rcases List.mem_append.mp member with own | pageInfo
  · split at own
    · cases own
    · rw [List.mem_singleton.mp own, ← Check.text_node]
      exact .node base (generated _ (mem_pairNames.mpr (.inl rfl)))
  · split at pageInfo
    · rw [List.mem_singleton.mp pageInfo, ← Check.text_pageInfo]
      exact .pageInfo base (generated _ (mem_pairNames.mpr (.inr rfl)))
    · cases pageInfo

/-- Each error of a paged document points into the document before, or it is about a reference that
a generated type makes. -/
theorem places_of_mem_errors_paged (free : (doc.survey settings).Free)
    (clear : ¬ doc.Conflicts settings.marker) {e : SchemaError}
    (member : e ∈ errors (doc.front settings ++ doc.connected settings)) :
    GeneratedReference ((doc.survey settings).generatedTypes settings) e ∨
      ∀ l ∈ e.locations, doc.Holds l := by
  rw [errors_paged free clear] at member
  rcases List.mem_append.mp member with duplicate | failed
  · exact .inr (holds_of_mem_duplicateDefinitions duplicate)
  rcases List.mem_append.mp failed with reference | kept
  · obtain ⟨base, marked, inside⟩ := List.mem_flatMap.mp reference
    refine .inl (generatedReference_of_mem_generatedErrors ?_ inside)
    rw [Survey.map_name_generatedTypes]
    intro name pair
    rcases mem_pairNames.mp pair with rfl | rfl
    · exact Survey.edgeName_mem_generatedNames _ marked
    · exact Survey.connectionName_mem_generatedNames _ marked
  · obtain ⟨r, reported, rfl⟩ := List.mem_map.mp kept
    have before := List.mem_map_of_mem (f := Prod.fst) (List.mem_of_mem_filter reported)
    rw [map_fst_labelledFailures, map_fst_labelledChecks] at before
    exact .inr (holds_of_mem_failedChecks before)

/-- What the error of a document that cannot be paged says about places. -/
theorem places_of_paginate_eq_error {e : PagingError} (failed : doc.paginate settings = .error e) :
    (∀ l ∈ e.locations, doc.Holds l) ∨
      ∃ types errors, (doc.survey settings).generate settings = .ok types ∧ e = .invalid errors ∧
        ∀ error ∈ errors, GeneratedReference types error ∨ ∀ l ∈ error.locations, doc.Holds l := by
  by_cases once : doc.definedTypes.Nodup
  case neg =>
    rw [paginate_of_redefined once] at failed
    cases failed
    refine .inl fun l named => ?_
    obtain ⟨error, member, inside⟩ := List.mem_flatMap.mp named
    exact holds_of_mem_errors member l inside
  by_cases collides : doc.Collides settings.marker
  case pos =>
    have taken : ¬ (doc.survey settings).Free := by
      rw [free_survey_iff, not_not]
      exact collides
    obtain ⟨collision, generation⟩ := Survey.generate_of_not_free _ settings taken
    rw [paginate_of_once once, generation] at failed
    cases failed
    refine .inl fun l named => ?_
    rw [List.mem_singleton.mp named]
    exact holds_of_generate_eq_error generation
  by_cases conflicts : doc.Conflicts settings.marker
  case pos =>
    obtain ⟨conflict, stopped⟩ := connect_of_conflicts conflicts
    rw [paginate_of_conflict once collides stopped] at failed
    cases failed
    refine .inl fun l named => ?_
    rw [List.mem_singleton.mp named]
    exact Survey.holds_of_connect_eq_error stopped
  have free : (doc.survey settings).Free := (doc.free_survey_iff settings).mpr collides
  rw [paginate_of_clear once collides conflicts] at failed
  split at failed
  · cases failed
  · cases failed
    exact .inr ⟨_, _, Survey.generate_of_free _ settings free, rfl,
      fun error member => places_of_mem_errors_paged free conflicts member⟩

end Document

namespace Sources

/-- Every definition comes from a source with a path. -/
def Sourced (s : Sources) : Prop := ∀ d ∈ s.document, ∃ path, d.origin = .source path

theorem sourced_add {s : Sources} (before : s.Sourced) (path : Option String)
    (ds : List Definition) : (s.add path ds).Sourced := by
  intro d member
  rcases List.mem_append.mp member with old | new
  · exact before d old
  · obtain ⟨definition, -, rfl⟩ := List.mem_map.mp new
    exact ⟨s.pathFor path, rfl⟩

theorem sourced_addText {s t : Sources} (before : s.Sourced) {path : Option String} {text : String}
    (run : s.addText path text = .ok t) : t.Sourced := by
  obtain ⟨ds, -, added⟩ := exists_of_bind_eq_ok run
  cases added
  exact sourced_add before path ds

theorem sourced_addFile {fs : FileSystem} {s t : Sources} (before : s.Sourced) {path : String}
    (run : s.addFile fs path = .ok t) : t.Sourced := by
  obtain ⟨text, -, added⟩ := exists_of_bind_eq_ok run
  exact sourced_addText before added

theorem sourced_load {fs : FileSystem} {s t : Sources} (before : s.Sourced) {load : Load}
    (run : s.load fs load = .ok t) : t.Sourced := by
  cases load with
  | text path content => exact sourced_addText before run
  | definitions path ds =>
      cases run
      exact sourced_add before path ds
  | files paths => exact of_foldlM_eq_ok (fun _ _ _ old run => sourced_addFile old run) before run

theorem sourced_of_loadAll {fs : FileSystem} {loads : List Load} {s : Sources}
    (run : empty.loadAll fs loads = .ok s) : s.Sourced := by
  have first : empty.Sourced := fun _ member => absurd member List.not_mem_nil
  exact of_foldlM_eq_ok (fun _ _ _ old run => sourced_load old run) first run

end Sources

/-- An error about loaded sources names places that a source gave to a definition or to one of its
fields, arguments or input values. Only a reference that a generated edge makes to its node, or a
generated connection to page information, has no such place, and nothing points nowhere. -/
theorem places_of_paginate_loaded {fs : FileSystem} {loads : List Load} {s : Sources}
    {settings : Settings} {e : PagingError} (loaded : Sources.empty.loadAll fs loads = .ok s)
    (counted : ∀ d ∈ s.document.definitions, ∀ p ∈ d.positions, 1 ≤ p.line)
    (failed : s.document.paginate settings = .error e) :
    (∀ l ∈ e.locations, l ≠ .generated → ∃ d ∈ s.document, ∃ path, d.origin = .source path ∧
      ∃ p ∈ d.definition.positions, l = .at path p) ∧
    (.generated ∈ e.locations → ∃ types errors,
      (s.document.survey settings).generate settings = .ok types ∧ e = .invalid errors ∧
        ∀ error ∈ errors, .generated ∈ error.locations → GeneratedReference types error) ∧
    ∀ path, .at path .nowhere ∉ e.locations := by
  have held : ∀ l, s.document.Holds l → ∃ d ∈ s.document, ∃ path, d.origin = .source path ∧
      ∃ p ∈ d.definition.positions, l = .at path p := by
    rintro l ⟨d, present, p, given, rfl⟩
    obtain ⟨path, source⟩ := Sources.sourced_of_loadAll loaded d present
    exact ⟨d, present, path, source, p, given, by rw [source]; rfl⟩
  have written : ∀ l, s.document.Holds l → l ≠ .generated := by
    intro l holds
    obtain ⟨d, -, path, -, p, -, rfl⟩ := held l holds
    simp
  have placed : ∀ l ∈ e.locations, l ≠ .generated → s.document.Holds l := by
    intro l named file
    rcases Document.places_of_paginate_eq_error failed with all | ⟨types, errors, -, rfl, each⟩
    · exact all l named
    · obtain ⟨error, member, inside⟩ := List.mem_flatMap.mp named
      rcases each error member with reference | all
      · cases reference <;> exact absurd (List.mem_singleton.mp inside) file
      · exact all l inside
  refine ⟨fun l named file => held l (placed l named file), ?_, ?_⟩
  · intro generated
    rcases Document.places_of_paginate_eq_error failed with all | ⟨types, errors, made, rfl, each⟩
    · exact absurd rfl (written _ (all _ generated))
    · refine ⟨types, errors, made, rfl, fun error member inside => ?_⟩
      exact (each error member).resolve_right fun all => written _ (all _ inside) rfl
  · intro path named
    obtain ⟨d, present, p, given, same⟩ := placed _ named (by simp)
    obtain ⟨source, origin⟩ := Sources.sourced_of_loadAll loaded d present
    rw [origin] at same
    have line := counted d.definition (List.mem_map_of_mem present) p given
    cases same
    exact absurd line (by decide)

/-- A query for posts, which are nowhere defined, and an extension of page information, which is not
defined either. -/
def danglingLoads : List Load :=
  [.definitions (some "query.graphql")
    [.type ⟨.definition none, ⟨1, 1⟩, "Query", [], .output .object []
      [⟨⟨1, 14⟩, none, "posts", [⟨⟨1, 20⟩, none, "by", .named "Author", none, []⟩],
        .list (.named "Post"), [⟨⟨1, 41⟩, "connection", []⟩]⟩]⟩],
   .definitions none
    [.type ⟨.extension, ⟨1, 8⟩, "PageInfo", [], .output .object []
      [⟨⟨1, 24⟩, none, "total", [], .named "Int", []⟩]⟩]]

theorem places_danglingLoads :
    ∃ s e, Sources.empty.loadAll ⟨.directory [], []⟩ danglingLoads = .ok s ∧
      s.document.paginate .default = .error e ∧
      e.locations = [.generated, .generated, .at "query.graphql" ⟨1, 20⟩, .at "str://0" ⟨1, 8⟩] ∧
      (∃ types errors, (s.document.survey .default).generate .default = .ok types ∧
        e = .invalid errors ∧
        ∀ error ∈ errors, .generated ∈ error.locations → GeneratedReference types error) ∧
      ∀ path, .at path .nowhere ∉ e.locations := by
  obtain ⟨s, loaded⟩ :
      ∃ s, Sources.empty.loadAll ⟨.directory [], []⟩ danglingLoads = .ok s := ⟨_, rfl⟩
  have counted : ∀ d ∈ s.document.definitions, ∀ p ∈ d.positions, 1 ≤ p.line := by
    cases loaded
    decide
  obtain ⟨e, failed, located⟩ : ∃ e, s.document.paginate .default = .error e ∧
      e.locations =
        [.generated, .generated, .at "query.graphql" ⟨1, 20⟩, .at "str://0" ⟨1, 8⟩] := by
    cases loaded
    exact ⟨_, rfl, rfl⟩
  obtain ⟨-, references, somewhere⟩ := places_of_paginate_loaded loaded counted failed
  refine ⟨s, e, loaded, failed, located, references ?_, somewhere⟩
  rw [located]
  exact List.mem_cons_self

end PagedSchema
