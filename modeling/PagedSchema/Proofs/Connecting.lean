/-
The walk that turns marked fields into connections. It comes to its end exactly if no field that it
selects has a pagination argument. Otherwise it stops at the first such field, with the selected
fields before it done and nothing changed from there on.
-/
import PagedSchema.Connection.Paged
import PagedSchema.Connection.Paging
import PagedSchema.Proofs.Generation
import PagedSchema.Proofs.MappedFields

namespace PagedSchema

section Steps

variable {α β ε : Type} {step : α → α × Except ε (List β)}

/-- A walk whose steps all succeed does each of them. -/
theorem stepThrough_of_ok {next : α → α} {results : α → List β} {l : List α}
    (ok : ∀ a ∈ l, step a = (next a, .ok (results a))) :
    stepThrough step l = (l.map next, .ok (l.flatMap results)) := by
  induction l with
  | nil => rfl
  | cons a rest ih =>
      rw [List.forall_mem_cons] at ok
      simp only [stepThrough, ok.1, ih ok.2]
      rfl

/-- A walk whose steps succeed up to one that fails does these, and leaves the rest. -/
theorem stepThrough_of_split {g : α → α} {before after : List α} {a a' : α} {e : ε}
    (done : ∀ b ∈ before, ∃ results, step b = (g b, .ok results))
    (failed : step a = (a', .error e)) :
    stepThrough step (before ++ a :: after) = (before.map g ++ a' :: after, .error e) := by
  induction before with
  | nil => simp only [List.nil_append, List.map_nil, stepThrough, failed]
  | cons b rest ih =>
      rw [List.forall_mem_cons] at done
      obtain ⟨⟨results, first⟩, others⟩ := done
      simp only [List.cons_append, List.map_cons, stepThrough, first, ih others]
      rfl

/-- A walk over two lists ends in the first one or goes on with the second. -/
theorem stepThrough_append (xs ys : List α) :
    stepThrough step (xs ++ ys) =
      match stepThrough step xs with
      | (xs', .error e) => (xs' ++ ys, .error e)
      | (xs', .ok bs) =>
        (xs' ++ (stepThrough step ys).1, (stepThrough step ys).2.map (bs ++ ·)) := by
  induction xs with
  | nil =>
      rcases walk : stepThrough step ys with ⟨ys', e | bs⟩
      · exact walk
      · exact walk
  | cons a rest ih =>
      simp only [List.cons_append, stepThrough, ih]
      rcases step a with ⟨a', e | bs⟩
      · rfl
      rcases stepThrough step rest with ⟨rest', e | cs⟩
      · rfl
      rcases stepThrough step ys with ⟨ys', e | ds⟩
      · rfl
      · simp [Except.map]

theorem snd_stepThrough_append (xs ys : List α) :
    (stepThrough step (xs ++ ys)).2 =
      (stepThrough step xs).2.bind fun bs => (stepThrough step ys).2.map (bs ++ ·) := by
  rw [stepThrough_append]
  rcases stepThrough step xs with ⟨xs', e | bs⟩ <;> rfl

theorem snd_stepThrough_singleton (a : α) : (stepThrough step [a]).2 = (step a).2 := by
  rcases single : step a with ⟨a', e | bs⟩
  · simp only [stepThrough, single]
  · simp only [stepThrough, single, Except.map, List.append_nil]

/-- If an element has a property, there is a first one that has it. -/
theorem exists_first {P : α → Prop} {l : List α} {a : α} (member : a ∈ l) (holds : P a) :
    ∃ before b after, l = before ++ b :: after ∧ P b ∧ ∀ c ∈ before, ¬ P c := by
  classical
  obtain ⟨b, before, after, others, found, whole, -⟩ :=
    List.exists_of_eraseP (p := fun a => decide (P a)) member (decide_eq_true holds)
  simp only [decide_eq_true_eq] at others found
  exact ⟨before, b, after, whole, found, others⟩

end Steps

def paginationNames : List String := ["after", "first", "before", "last"]

theorem isPaginationArgument_iff (name : String) :
    isPaginationArgument name ↔ name ∈ paginationNames := by
  change (paginationArguments.any (·.1 == name)) = true ↔ name ∈ paginationArguments.map (·.1)
  simp only [List.any_eq_true, List.mem_map, beq_iff_eq]

/-- A field of an object or interface type at its place in a document. -/
structure FieldPlace where
  before : Document
  origin : Origin
  role : Role
  position : Position
  type : String
  directives : List Directive
  kind : OutputKind
  interfaces : List String
  earlier : List Field
  field : Field
  later : List Field
  after : Document

namespace FieldPlace

variable (place : FieldPlace)

def decl : TypeDecl :=
  ⟨place.role, place.position, place.type, place.directives,
    .output place.kind place.interfaces (place.earlier ++ place.field :: place.later)⟩

def document : Document := place.before ++ ⟨place.origin, .type place.decl⟩ :: place.after

def fieldsBefore : List (String × Field) :=
  place.before.outputFields ++ place.earlier.map (place.type, ·)

def mapBefore (g : String → Field → Field) : FieldPlace :=
  { place with
    before := place.before.mapFields g
    earlier := place.earlier.map (g place.type) }

end FieldPlace

namespace Survey

variable (survey : Survey) (marker : String)

def pageField (type : String) (f : Field) : Field :=
  match survey.selected? marker type f with
  | some base => f.toConnection base marker
  | none => f

def pageCoordinate (type : String) (f : Field) : List Coordinate :=
  match survey.selected? marker type f with
  | some _ => [⟨type, f.name⟩]
  | none => []

theorem pageField_name (type : String) (f : Field) :
    (survey.pageField marker type f).name = f.name := by
  unfold pageField
  split <;> rfl

/-- The walk can go on at a field that is not selected or has no pagination argument. -/
def Passable (type : String) (f : Field) : Prop :=
  (survey.selected? marker type f).isSome → ∀ a ∈ f.arguments, ¬ isPaginationArgument a.name

/-- A field that is to become a connection: it has the marker, and the survey remembers it. -/
def Selects (type : String) (f : Field) : Prop :=
  hasDirective f.directives marker ∧ survey.marked.contains ⟨type, f.name⟩

/-- The walk stops at this place because of this argument: it is the first pagination argument of
the field, which is selected, and no selected field before has one. -/
structure StopsAt (place : FieldPlace) (a : InputValue) : Prop where
  clear : ∀ entry ∈ place.fieldsBefore, survey.Selects marker entry.1 entry.2 →
    ∀ b ∈ entry.2.arguments, b.name ∉ paginationNames
  selected : survey.Selects marker place.type place.field
  argument : ∃ before after, place.field.arguments = before ++ a :: after ∧
    a.name ∈ paginationNames ∧ ∀ b ∈ before, b.name ∉ paginationNames

variable {survey marker}

section Selection

variable {type : String} {f : Field}

theorem selected?_eq_some_iff {base : String} :
    survey.selected? marker type f = some base ↔
      hasDirective f.directives marker ∧ survey.marked.get? ⟨type, f.name⟩ = some base := by
  by_cases marked : hasDirective f.directives marker
  · simp only [selected?, marked, if_true, true_and]
  · simp only [selected?, marked, if_false, false_and, reduceCtorEq]

theorem selects_iff_exists :
    survey.Selects marker type f ↔ ∃ base, survey.selected? marker type f = some base := by
  rw [Selects, Table.contains, Option.isSome_iff_exists]
  simp only [selected?_eq_some_iff, exists_and_left]

theorem selected?_eq_none_iff :
    survey.selected? marker type f = none ↔ ¬ survey.Selects marker type f := by
  rw [selects_iff_exists, ← Option.isSome_iff_exists, Option.not_isSome_iff_eq_none]

theorem passable_iff :
    survey.Passable marker type f ↔
      (survey.Selects marker type f → ∀ a ∈ f.arguments, a.name ∉ paginationNames) := by
  rw [Passable, Option.isSome_iff_exists, ← selects_iff_exists]
  simp only [isPaginationArgument_iff]

theorem not_passable_iff :
    ¬ survey.Passable marker type f ↔
      survey.Selects marker type f ∧ ∃ a ∈ f.arguments, a.name ∈ paginationNames := by
  rw [passable_iff]
  push Not
  rfl

end Selection

theorem connectField_of_passable (origin : Origin) {type : String} {f : Field}
    (passable : survey.Passable marker type f) :
    survey.connectField marker origin type f =
      (survey.pageField marker type f, .ok (survey.pageCoordinate marker type f)) := by
  unfold connectField pageField pageCoordinate
  cases selected : survey.selected? marker type f with
  | none => rfl
  | some base =>
      have clear : f.arguments.find? (isPaginationArgument ·.name) = none := by
        rw [List.find?_eq_none]
        exact passable (by rw [selected]; rfl)
      simp only [clear]

theorem connectType_of_passable (origin : Origin) {d : TypeDecl}
    (passable : ∀ f ∈ d.outputFields, survey.Passable marker d.name f) :
    survey.connectType marker origin d =
      (d.mapFields (survey.pageField marker d.name),
        .ok (d.outputFields.flatMap (survey.pageCoordinate marker d.name))) := by
  obtain ⟨role, position, name, directives, body⟩ := d
  cases body with
  | output kind interfaces fields =>
      have steps : stepThrough (survey.connectField marker origin name) fields =
          (fields.map (survey.pageField marker name),
            .ok (fields.flatMap (survey.pageCoordinate marker name))) :=
        stepThrough_of_ok fun f member => connectField_of_passable origin (passable f member)
      simp only [connectType, steps]
      rfl
  | scalar | enum | union | input => rfl

theorem connectDefinition_of_passable {s : Sourced}
    (passable : ∀ entry ∈ s.definition.outputFields, survey.Passable marker entry.1 entry.2) :
    survey.connectDefinition marker s =
      (s.mapFields (survey.pageField marker),
        .ok (s.definition.outputFields.flatMap fun entry =>
          survey.pageCoordinate marker entry.1 entry.2)) := by
  obtain ⟨origin, definition⟩ := s
  cases definition with
  | schema d => rfl
  | directive d => rfl
  | type d =>
      have step := connectType_of_passable (d := d) origin fun f member =>
        passable (d.name, f) (List.mem_map_of_mem member)
      simp only [connectDefinition, step, Definition.outputFields, List.flatMap_map]
      rfl

/-- A walk that no field stops makes of each field what it makes of it alone. -/
theorem connect_of_passable {settings : Settings} {doc : Document}
    (passable : ∀ entry ∈ doc.outputFields, survey.Passable settings.marker entry.1 entry.2) :
    survey.connect settings doc =
      (doc.mapFields (survey.pageField settings.marker),
        .ok (doc.outputFields.flatMap fun entry =>
          survey.pageCoordinate settings.marker entry.1 entry.2)) := by
  rw [Document.outputFields_eq_flatMap, Document.definitions, List.flatMap_map, List.flatMap_assoc]
  apply stepThrough_of_ok
  intro s present
  exact connectDefinition_of_passable fun entry member =>
    passable entry (Document.mem_outputFields_iff.mpr ⟨s, present, member⟩)

section Stop

variable {place : FieldPlace} {a : InputValue}

theorem connectField_of_stopsAt (stops : survey.StopsAt marker place a) :
    survey.connectField marker place.origin place.type place.field =
      (place.field, .error ⟨⟨place.type, place.field.name⟩, marker, a.name,
        place.origin.locate a.position⟩) := by
  obtain ⟨base, selected⟩ := selects_iff_exists.mp stops.selected
  obtain ⟨before, after, arguments, pagination, others⟩ := stops.argument
  have found : place.field.arguments.find? (isPaginationArgument ·.name) = some a := by
    rw [List.find?_eq_some_iff_append]
    refine ⟨(isPaginationArgument_iff a.name).mpr pagination, before, after, arguments, ?_⟩
    intro b member
    rw [Bool.not_eq_true', ← Bool.not_eq_true, isPaginationArgument_iff]
    exact others b member
  simp only [connectField, selected, found]

theorem connectDefinition_of_stopsAt (stops : survey.StopsAt marker place a) :
    survey.connectDefinition marker ⟨place.origin, .type place.decl⟩ =
      (⟨place.origin, .type (place.mapBefore (survey.pageField marker)).decl⟩,
        .error ⟨⟨place.type, place.field.name⟩, marker, a.name,
          place.origin.locate a.position⟩) := by
  have walk : stepThrough (survey.connectField marker place.origin place.type)
      (place.earlier ++ place.field :: place.later) = _ :=
    stepThrough_of_split (g := survey.pageField marker place.type) (fun f member =>
      ⟨_, connectField_of_passable place.origin (passable_iff.mpr
        (stops.clear (place.type, f) (List.mem_append_right _ (List.mem_map_of_mem member))))⟩)
      (connectField_of_stopsAt stops)
  simp only [connectDefinition, connectType, FieldPlace.decl, walk]
  rfl

/-- A walk that stops leaves the document with the selected fields before the place done. -/
theorem connect_of_stopsAt {settings : Settings} (stops : survey.StopsAt settings.marker place a) :
    survey.connect settings place.document =
      ((place.mapBefore (survey.pageField settings.marker)).document,
        .error ⟨⟨place.type, place.field.name⟩, settings.marker, a.name,
          place.origin.locate a.position⟩) := by
  refine stepThrough_of_split (g := (·.mapFields (survey.pageField settings.marker)))
    (fun s member => ⟨_, connectDefinition_of_passable fun entry declared => ?_⟩)
    (connectDefinition_of_stopsAt stops)
  exact passable_iff.mpr (stops.clear entry (List.mem_append_left _
    (Document.mem_outputFields_iff.mpr ⟨s, member, declared⟩)))

end Stop

/-- A document in which some selected field has a pagination argument has a first such field, and
that has a first such argument. -/
theorem exists_stopsAt {doc : Document} {entry : String × Field} (member : entry ∈ doc.outputFields)
    (stuck : ¬ survey.Passable marker entry.1 entry.2) :
    ∃ place a, doc = FieldPlace.document place ∧ survey.StopsAt marker place a := by
  obtain ⟨s, present, declared⟩ := Document.mem_outputFields_iff.mp member
  -- The first definition with a stuck field, and in it the first stuck field.
  obtain ⟨before, ⟨origin, definition⟩, after, rfl, ⟨found, declared, stuck⟩, clear⟩ :=
    exists_first (P := fun s : Sourced => ∃ entry ∈ s.definition.outputFields,
      ¬ survey.Passable marker entry.1 entry.2) present ⟨entry, declared, stuck⟩
  cases definition with
  | schema d => cases declared
  | directive d => cases declared
  | type d =>
      obtain ⟨role, position, name, directives, body⟩ := d
      obtain ⟨f, listed, rfl⟩ := List.mem_map.mp declared
      cases body with
      | scalar | enum | union | input => cases listed
      | output kind interfaces fields =>
          obtain ⟨earlier, f, later, rfl, stuck, passed⟩ :=
            exists_first (P := fun f => ¬ survey.Passable marker name f) listed stuck
          obtain ⟨selected, b, given, pagination⟩ := not_passable_iff.mp stuck
          obtain ⟨xs, a, ys, arguments, named, others⟩ :=
            exists_first (P := fun a : InputValue => a.name ∈ paginationNames) given pagination
          refine ⟨⟨before, origin, role, position, name, directives, kind, interfaces, earlier, f,
            later, after⟩, a, rfl, ?_, selected, xs, ys, arguments, named, others⟩
          intro entry declared
          rw [← passable_iff]
          rcases List.mem_append.mp declared with early | same
          · obtain ⟨s, present, declared⟩ := Document.mem_outputFields_iff.mp early
            by_contra stuck
            exact clear s present ⟨entry, declared, stuck⟩
          · obtain ⟨g, earlier, rfl⟩ := List.mem_map.mp same
            exact not_not.mp (passed g earlier)

variable {settings : Settings} {doc left : Document}

theorem exists_connect_eq_error_iff :
    (∃ left conflict, survey.connect settings doc = (left, .error conflict)) ↔
      ∃ entry ∈ doc.outputFields, ¬ survey.Passable settings.marker entry.1 entry.2 := by
  constructor
  · rintro ⟨left, conflict, failed⟩
    by_contra passable
    push Not at passable
    rw [connect_of_passable passable] at failed
    cases failed
  · rintro ⟨entry, member, stuck⟩
    obtain ⟨place, a, rfl, stops⟩ := exists_stopsAt member stuck
    exact ⟨_, _, connect_of_stopsAt stops⟩

theorem connect_eq_error_iff {conflict : ArgumentConflict} :
    survey.connect settings doc = (left, .error conflict) ↔
      ∃ place a, doc = FieldPlace.document place ∧ survey.StopsAt settings.marker place a ∧
        left = (place.mapBefore (survey.pageField settings.marker)).document ∧
        conflict = ⟨⟨place.type, place.field.name⟩, settings.marker, a.name,
          place.origin.locate a.position⟩ := by
  constructor
  · intro failed
    obtain ⟨entry, member, stuck⟩ := exists_connect_eq_error_iff.mp ⟨_, _, failed⟩
    obtain ⟨place, a, rfl, stops⟩ := exists_stopsAt member stuck
    rw [connect_of_stopsAt stops] at failed
    cases failed
    exact ⟨place, a, rfl, stops, rfl, rfl⟩
  · rintro ⟨place, a, rfl, stops, rfl, rfl⟩
    exact connect_of_stopsAt stops

theorem connect_eq_ok_iff {connected : List Coordinate} :
    survey.connect settings doc = (left, .ok connected) ↔
      (∀ entry ∈ doc.outputFields, survey.Passable settings.marker entry.1 entry.2) ∧
      left = doc.mapFields (survey.pageField settings.marker) ∧
      connected = doc.outputFields.flatMap fun entry =>
        survey.pageCoordinate settings.marker entry.1 entry.2 := by
  constructor
  · intro went
    have passable : ∀ entry ∈ doc.outputFields,
        survey.Passable settings.marker entry.1 entry.2 := by
      intro entry member
      by_contra stuck
      obtain ⟨_, _, failed⟩ := exists_connect_eq_error_iff.mpr ⟨entry, member, stuck⟩
      rw [went] at failed
      cases failed
    rw [connect_of_passable passable] at went
    cases went
    exact ⟨passable, rfl, rfl⟩
  · rintro ⟨passable, rfl, rfl⟩
    exact connect_of_passable passable

end Survey

end PagedSchema
