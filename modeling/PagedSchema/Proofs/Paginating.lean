/-
Paging as a whole: which stage ends it, told from the document alone, and what it gives, field by
field, where none does.
-/
import PagedSchema.Connection.Paged
import PagedSchema.Proofs.PagedWellFormed

namespace PagedSchema

namespace Document

variable {doc : Document} {settings : Settings}

theorem paginate_of_redefined (twice : ¬ doc.definedTypes.Nodup) :
    doc.paginate settings = .error (.invalid doc.errors) := by
  have found : (doc.survey settings).redefinitions.isEmpty = false := by
    rw [List.isEmpty_eq_false_iff, ne_eq, redefinitions_eq_nil_iff]
    exact twice
  unfold paginate
  simp only [found]
  rfl

/-- Paging a document that defines each type once starts with the generated types. -/
theorem paginate_of_once (once : doc.definedTypes.Nodup) : doc.paginate settings =
    (match (doc.survey settings).generate settings with
    | .error collision => .error (.nameCollision collision)
    | .ok types =>
      match (doc.survey settings).connect settings (doc.withGenerated types settings) with
      | (_, .error conflict) => .error (.argumentConflict conflict)
      | (document, .ok connected) =>
        if document.errors = [] then .ok ⟨document, connected, types.map (·.name)⟩
        else .error (.invalid document.errors)) := by
  have none_found : (doc.survey settings).redefinitions.isEmpty = true := by
    rw [List.isEmpty_iff, redefinitions_eq_nil_iff]
    exact once
  unfold paginate
  simp only [none_found]
  cases (doc.survey settings).generate settings with
  | error collision => rfl
  | ok types =>
      simp only [Except.mapError, bind, Except.bind]
      rcases (doc.survey settings).connect settings (doc.withGenerated types settings) with
        ⟨document, conflict | connected⟩
      · rfl
      · cases errors : document.errors with
        | nil =>
            simp only [errors]
            rfl
        | cons e rest =>
            simp only [errors]
            rfl

theorem paginate_of_collides (once : doc.definedTypes.Nodup)
    (collides : doc.Collides settings.marker) :
    ∃ collision, doc.paginate settings = .error (.nameCollision collision) := by
  have taken : ¬ (doc.survey settings).Free := by
    rw [free_survey_iff, not_not]
    exact collides
  obtain ⟨collision, failed⟩ := Survey.generate_of_not_free _ settings taken
  rw [paginate_of_once once, failed]
  exact ⟨collision, rfl⟩

section Free

variable (once : doc.definedTypes.Nodup) (free : ¬ doc.Collides settings.marker)

include once free

/-- Without collisions the walk over the document and the errors of what it leaves decide. -/
theorem paginate_of_free : doc.paginate settings =
    (match (doc.survey settings).connect settings doc with
    | (_, .error conflict) => .error (.argumentConflict conflict)
    | (document, .ok connected) =>
      if errors (doc.front settings ++ document) = [] then
        .ok ⟨doc.front settings ++ document, connected, (doc.survey settings).generatedNames⟩
      else .error (.invalid (errors (doc.front settings ++ document)))) := by
  have free' : (doc.survey settings).Free := (doc.free_survey_iff settings).mpr free
  rw [paginate_of_once once, Survey.generate_of_free _ settings free']
  simp only [connect_generatedTypes free', Survey.map_name_generatedTypes]
  rcases (doc.survey settings).connect settings doc with ⟨document, conflict | connected⟩ <;> rfl

theorem paginate_of_conflict {conflict : ArgumentConflict}
    (failed : ((doc.survey settings).connect settings doc).2 = .error conflict) :
    doc.paginate settings = .error (.argumentConflict conflict) := by
  rw [paginate_of_free once free]
  cases walk : (doc.survey settings).connect settings doc with
  | mk document result =>
      rw [walk] at failed
      cases failed
      rfl

theorem paginate_of_conflicts (conflicts : doc.Conflicts settings.marker) :
    ∃ conflict, doc.paginate settings = .error (.argumentConflict conflict) := by
  obtain ⟨conflict, failed⟩ := connect_of_conflicts conflicts
  exact ⟨conflict, paginate_of_conflict once free failed⟩

/-- Without conflicts, too, the errors of the document that paging makes decide. -/
theorem paginate_of_clear (clear : ¬ doc.Conflicts settings.marker) :
    doc.paginate settings =
      if errors (doc.front settings ++ doc.connected settings) = [] then
        .ok ⟨doc.front settings ++ doc.connected settings,
          (doc.markedFields settings.marker).map (·.1), (doc.survey settings).generatedNames⟩
      else .error (.invalid (errors (doc.front settings ++ doc.connected settings))) := by
  rw [paginate_of_free once free, connect_of_not_conflicts clear]

theorem paginate_of_wellFormed (clear : ¬ doc.Conflicts settings.marker)
    (wellFormed : doc.WellFormedWith (doc.generatedNames settings.marker)) :
    doc.paginate settings =
      .ok ⟨doc.front settings ++ doc.connected settings,
        (doc.markedFields settings.marker).map (·.1), (doc.survey settings).generatedNames⟩ := by
  rw [paginate_of_clear once free clear, if_pos]
  rw [errors_eq_nil_iff, wellFormed_paged_iff ((doc.free_survey_iff settings).mpr free) clear]
  exact wellFormed

theorem paginate_of_not_wellFormed (clear : ¬ doc.Conflicts settings.marker)
    (broken : ¬ doc.WellFormedWith (doc.generatedNames settings.marker)) :
    ∃ errors, doc.paginate settings = .error (.invalid errors) := by
  rw [paginate_of_clear once free clear, if_neg]
  · exact ⟨_, rfl⟩
  · rw [errors_eq_nil_iff, wellFormed_paged_iff ((doc.free_survey_iff settings).mpr free) clear]
    exact broken

end Free

/-- A document that can be paged has nothing that any stage objects to. -/
theorem of_paginate_eq_ok {p : Paged} (paged : doc.paginate settings = .ok p) :
    ¬ doc.Collides settings.marker ∧ ¬ doc.Conflicts settings.marker ∧
      doc.WellFormedWith (doc.generatedNames settings.marker) := by
  have once : doc.definedTypes.Nodup := by
    by_contra twice
    rw [paginate_of_redefined twice] at paged
    cases paged
  have free : ¬ doc.Collides settings.marker := by
    intro collides
    obtain ⟨collision, failed⟩ := paginate_of_collides once collides
    rw [failed] at paged
    cases paged
  have clear : ¬ doc.Conflicts settings.marker := by
    intro conflicts
    obtain ⟨conflict, failed⟩ := paginate_of_conflicts once free conflicts
    rw [failed] at paged
    cases paged
  refine ⟨free, clear, ?_⟩
  by_contra broken
  obtain ⟨errors, failed⟩ := paginate_of_not_wellFormed once free clear broken
  rw [failed] at paged
  cases paged

theorem eq_of_paginate_eq_ok {p : Paged} (paged : doc.paginate settings = .ok p) :
    p = ⟨doc.front settings ++ doc.connected settings,
      (doc.markedFields settings.marker).map (·.1), (doc.survey settings).generatedNames⟩ := by
  obtain ⟨free, clear, wellFormed⟩ := of_paginate_eq_ok paged
  rw [paginate_of_wellFormed wellFormed.typesOnce free clear wellFormed] at paged
  exact (Except.ok.inj paged).symm

end Document

inductive Verdict
  | invalid
  | nameCollision
  | argumentConflict
  | paged
deriving DecidableEq

def Verdict.of : Except PagingError Paged → Verdict
  | .error (.invalid _) => invalid
  | .error (.nameCollision _) => nameCollision
  | .error (.argumentConflict _) => argumentConflict
  | .ok _ => paged

namespace Document

/-- A type defined twice comes before a generated name that is taken, this before a marked field
with a pagination argument, and this before everything else. -/
def verdict (doc : Document) (marker : String) : Verdict :=
  if ¬ doc.definedTypes.Nodup then .invalid
  else if doc.Collides marker then .nameCollision
  else if doc.Conflicts marker then .argumentConflict
  else if doc.WellFormedWith (doc.generatedNames marker) then .paged
  else .invalid

theorem verdict_paginate (doc : Document) (settings : Settings) :
    Verdict.of (doc.paginate settings) = doc.verdict settings.marker := by
  unfold verdict
  by_cases once : doc.definedTypes.Nodup
  · rw [if_neg (not_not.mpr once)]
    by_cases collides : doc.Collides settings.marker
    · obtain ⟨collision, failed⟩ := paginate_of_collides once collides
      rw [failed, if_pos collides]
      rfl
    · rw [if_neg collides]
      by_cases conflicts : doc.Conflicts settings.marker
      · obtain ⟨conflict, failed⟩ := paginate_of_conflicts once collides conflicts
        rw [failed, if_pos conflicts]
        rfl
      · rw [if_neg conflicts]
        by_cases wellFormed : doc.WellFormedWith (doc.generatedNames settings.marker)
        · rw [paginate_of_wellFormed once collides conflicts wellFormed, if_pos wellFormed]
          rfl
        · obtain ⟨errors, failed⟩ := paginate_of_not_wellFormed once collides conflicts wellFormed
          rw [failed, if_neg wellFormed]
          rfl
  · rw [paginate_of_redefined once, if_pos once]
    rfl

/-- Paging ends alike where all that decides about it is the same. -/
theorem verdict_of_paginate_congr {xs ys : Document} {s t : Settings}
    (once : xs.definedTypes.Nodup ↔ ys.definedTypes.Nodup)
    (collides : xs.Collides s.marker ↔ ys.Collides t.marker)
    (conflicts : xs.Conflicts s.marker ↔ ys.Conflicts t.marker)
    (wellFormed : xs.WellFormedWith (xs.generatedNames s.marker) ↔
      ys.WellFormedWith (ys.generatedNames t.marker)) :
    Verdict.of (xs.paginate s) = Verdict.of (ys.paginate t) := by
  by_cases first : xs.definedTypes.Nodup
  case neg =>
    rw [paginate_of_redefined first, paginate_of_redefined (mt once.mpr first)]
    rfl
  have first' := once.mp first
  by_cases taken : xs.Collides s.marker
  case pos =>
    obtain ⟨_, left⟩ := paginate_of_collides first taken
    obtain ⟨_, right⟩ := paginate_of_collides first' (collides.mp taken)
    rw [left, right]
    rfl
  have free := mt collides.mpr taken
  by_cases blocked : xs.Conflicts s.marker
  case pos =>
    obtain ⟨_, left⟩ := paginate_of_conflicts first taken blocked
    obtain ⟨_, right⟩ := paginate_of_conflicts first' free (conflicts.mp blocked)
    rw [left, right]
    rfl
  have clear := mt conflicts.mpr blocked
  by_cases sound : xs.WellFormedWith (xs.generatedNames s.marker)
  case pos =>
    rw [paginate_of_wellFormed first taken blocked sound,
      paginate_of_wellFormed first' free clear (wellFormed.mp sound)]
    rfl
  case neg =>
    obtain ⟨_, left⟩ := paginate_of_not_wellFormed first taken blocked sound
    obtain ⟨_, right⟩ := paginate_of_not_wellFormed first' free clear (mt wellFormed.mpr sound)
    rw [left, right]
    rfl

/-- Page information that is extended and not defined is neither generated nor valid. -/
example : verdict (ofSource "schema.graphql" [.type ⟨.extension, ⟨1, 1⟩, "PageInfo", [], .scalar⟩])
    "connection" = .invalid := by decide

end Document

def InputValue.plain (name type : String) : InputValue :=
  ⟨.nowhere, none, name, .named type, none, []⟩

/-- A marked field gets a connection of its own base type, takes the pagination arguments after its
own, and loses the marker. Any other field stays. -/
def Field.paged (marker : String) (f : Field) : Field :=
  if hasDirective f.directives marker then
    { f with
      type := .named (f.type.base ++ "Connection")
      arguments := f.arguments ++
        [.plain "after" "String", .plain "first" "Int", .plain "before" "String",
          .plain "last" "Int"]
      directives := f.directives.filter (·.name != marker) }
  else f

namespace Document

variable {doc : Document} {settings : Settings}

/-- Where no field is declared twice, the walk takes each field by itself. -/
theorem pageField_eq_paged (once : doc.coordinates.Nodup) {entry : String × Field}
    (member : entry ∈ doc.outputFields) :
    (doc.survey settings).pageField settings.marker entry.1 entry.2 =
      entry.2.paged settings.marker := by
  unfold Field.paged
  by_cases marked : hasDirective entry.2.directives settings.marker
  · unfold Survey.pageField Survey.selected?
    rw [if_pos marked, if_pos marked, doc.get?_marked_of_fieldsOnce settings once member marked]
    rfl
  · rw [if_neg marked, pageField_of_not_marked marked]

theorem connected_eq_mapFields (once : doc.coordinates.Nodup) :
    doc.connected settings = doc.mapFields fun _ f => f.paged settings.marker :=
  mapFields_congr fun _ member => pageField_eq_paged once member

/-- The generated types as they are, the marker's declaration if the document has none, and then
the definitions of the document, each at its place with its marked fields paged. -/
theorem document_of_paginate_eq_ok {p : Paged} (paged : doc.paginate settings = .ok p) :
    ∃ types, (doc.survey settings).generate settings = .ok types ∧
      p.document =
        ofGenerated types ++
          (if doc.definesDirective settings.marker then []
            else [⟨.generated, .directive (markerDecl settings.marker)⟩]) ++
          doc.mapFields (fun _ f => f.paged settings.marker) ∧
      p.connected =
        (doc.outputFields.filter fun (_, f) => hasDirective f.directives settings.marker).map
          (fun (type, f) => ⟨type, f.name⟩) ∧
      p.generated = types.map (·.name) := by
  obtain ⟨free, clear, wellFormed⟩ := of_paginate_eq_ok paged
  rw [eq_of_paginate_eq_ok paged]
  refine ⟨_, Survey.generate_of_free _ settings ((doc.free_survey_iff settings).mpr free),
    ?_, ?_, ?_⟩
  · rw [connected_eq_mapFields wellFormed.fieldsOnce]
    rfl
  · exact List.map_map
  · exact (Survey.map_name_generatedTypes _ settings).symm

def usersSchema : Document :=
  ofSource "schema.graphql"
    [.type ⟨.definition none, ⟨1, 1⟩, "Query", [],
      .output .object [] [⟨⟨1, 14⟩, none, "users", [.plain "role" "String"],
        .list (.named "User"), [⟨⟨1, 42⟩, "connection", []⟩]⟩]⟩,
     .type ⟨.definition none, ⟨2, 1⟩, "User", [],
      .output .object [] [⟨⟨2, 13⟩, none, "id", [], .nonNull (.named "ID"), []⟩]⟩]

theorem document_of_paginate_usersSchema :
    ∃ p, usersSchema.paginate .default = .ok p ∧
      ∃ types, (usersSchema.survey .default).generate .default = .ok types ∧
        p.document =
          ofGenerated types ++ [⟨.generated, .directive (markerDecl "connection")⟩] ++
            usersSchema.mapFields (fun _ f => f.paged "connection") ∧
        p.connected = [⟨"Query", "users"⟩] ∧ p.generated = types.map (·.name) := by
  obtain ⟨p, paged⟩ : ∃ p, usersSchema.paginate .default = .ok p := ⟨_, rfl⟩
  exact ⟨p, paged, document_of_paginate_eq_ok paged⟩

end Document

end PagedSchema
