/-
A marker that a source declares as paging would declare it. The declaration may be loaded first or
left to paging: the schema that paging makes is the same.
-/
import PagedSchema.Proofs.Loading
import PagedSchema.Proofs.MarkerText
import PagedSchema.Proofs.UnplacedPaging

namespace PagedSchema

/-- What a paged schema shows: its text, its generated names, and its connection fields. -/
def Paged.shown (p : Paged) : String × List String × List Coordinate :=
  (p.sdl, p.generated, p.connected)

theorem Paged.shown_unplaced (p : Paged) : p.unplaced.shown = p.shown := by
  have text : p.unplaced.sdl = p.sdl := by
    unfold sdl
    rw [unplaced, Document.definitions_unplaced, Sdl.print_map_unplaced]
  unfold shown
  rw [text]
  rfl

namespace Document

/-- What paging a document shows, if it succeeds. -/
def shown? (doc : Document) (settings : Settings) :
    Option (String × List String × List Coordinate) :=
  (doc.paginate settings).toOption.map (·.shown)

theorem shown?_unplaced (doc : Document) (settings : Settings) :
    doc.unplaced.shown? settings = doc.shown? settings := by
  unfold shown?
  rw [paginate_unplaced]
  cases doc.paginate settings with
  | error e => rfl
  | ok p => exact congrArg some p.shown_unplaced

theorem shown?_of_alike {xs ys : Document} (alike : xs.Alike ys) (settings : Settings) :
    xs.shown? settings = ys.shown? settings := by
  rw [← shown?_unplaced xs, unplaced_eq_iff_alike.mpr alike, shown?_unplaced]

section Declared

variable {doc : Document} {settings : Settings} (new : settings.marker ∉ doc.directiveNames)

/-- The document with the marker's declaration in front, as paging would put it there. -/
def declaring (doc : Document) (marker : String) : Document :=
  ⟨.generated, .directive (markerDecl marker)⟩ :: doc

include new

theorem errors_declaring : (doc.declaring settings.marker).errors = doc.errors := by
  have entries : (doc.declaring settings.marker).definitionEntries =
      [(.directive settings.marker, .generated)] ++ doc.definitionEntries := rfl
  have apart : DefinedName.directive settings.marker ∉ doc.definitionEntries.map Prod.fst := by
    rw [map_fst_definitionEntries, ← DefinedName.mem_filterMap_directive?,
      filterMap_directive?_definedNames]
    exact new
  have duplicates : (doc.declaring settings.marker).duplicateDefinitions =
      doc.duplicateDefinitions := by
    change (repeatsFrom .empty (doc.declaring settings.marker).definitionEntries).map _ =
      (repeatsFrom .empty doc.definitionEntries).map _
    rw [entries, repeatsFrom_append_left (by simp) (by simp) (by simpa using apart)]
  unfold errors
  rw [duplicates]
  rfl

theorem withGenerated_declaring (types : List TypeDecl) :
    (doc.declaring settings.marker).withGenerated types settings =
      doc.withGenerated types settings := by
  have declared : (doc.declaring settings.marker).definesDirective settings.marker = true :=
    (definesDirective_iff _ _).mpr List.mem_cons_self
  have undeclared : doc.definesDirective settings.marker = false := by
    rw [Bool.eq_false_iff, ne_eq, definesDirective_iff]
    exact new
  unfold withGenerated markerDeclarations
  rw [declared, undeclared]
  simp [declaring]

theorem paginate_declaring :
    (doc.declaring settings.marker).paginate settings = doc.paginate settings := by
  have survey : (doc.declaring settings.marker).survey settings = doc.survey settings := rfl
  unfold paginate
  simp only [survey, errors_declaring new, withGenerated_declaring new]

end Declared

end Document

/-- Loads sources, and pages what they hold together. -/
def paginateAll? (fs : FileSystem) (settings : Settings) (loads : List Load) : Option Paged :=
  (Sources.empty.loadAll fs loads).toOption.bind fun s => (s.document.paginate settings).toOption

theorem Sources.loadAll_markerDeclaration (fs : FileSystem) {marker : String}
    (named : Sdl.isName marker) (path : Option String) (loads : List Load) :
    Sources.empty.loadAll fs (.text path (markerDeclaration marker) :: loads) =
      (Sources.empty.add path
        [.directive { markerDecl marker with position := ⟨1, 1⟩ }]).loadAll fs loads := by
  unfold loadAll
  rw [List.foldlM_cons, load, addText, Sdl.parse_markerDeclaration named]
  rfl

/-- The declaration of the marker as a source of its own in front of sources without it changes
nothing: paging succeeds with it if it does without, and shows the same. -/
theorem shown_paginateAll?_markerDeclaration (fs : FileSystem) (settings : Settings)
    (named : Sdl.isName settings.marker) (path : Option String) (loads : List Load)
    (undeclared : ∀ s, Sources.empty.loadAll fs loads = .ok s →
      ¬ s.document.definesDirective settings.marker) :
    (paginateAll? fs settings (.text path (markerDeclaration settings.marker) :: loads)).map
        (·.shown) =
      (paginateAll? fs settings loads).map (·.shown) := by
  unfold paginateAll?
  rw [Sources.loadAll_markerDeclaration fs named]
  rcases Sources.loadAll_together fs (Sources.empty.add path
      [.directive { markerDecl settings.marker with position := ⟨1, 1⟩ }]) .empty loads with
    ⟨e, e', failed, failed'⟩ | ⟨t, s, ds, run, run', after, plain⟩
  · rw [failed, failed']
    rfl
  · rw [run, run']
    change s.document.definitions = ds at plain
    have alike : t.document.Alike (s.document.declaring settings.marker) := by
      unfold Document.Alike
      rw [after, ← plain]
      rfl
    have new : settings.marker ∉ s.document.directiveNames :=
      mt (Document.definesDirective_iff _ _).mpr (undeclared s run')
    change t.document.shown? settings = s.document.shown? settings
    rw [Document.shown?_of_alike alike, Document.shown?, Document.paginate_declaring new]
    rfl

/-- A query for a list of users, which is marked, and the users that it lists. -/
def usersLoads : List Load :=
  [.definitions (some "query.graphql") (Document.usersQuery 1),
    .definitions none (Document.usersType 1)]

theorem shown_paginateAll?_usersLoads :
    ∃ p, paginateAll? ⟨.directory [], []⟩ .default usersLoads = some p ∧
      (paginateAll? ⟨.directory [], []⟩ .default
        (.text (some "marker.graphql") (markerDeclaration "connection") :: usersLoads)).map
          (·.shown) = some p.shown := by
  have undeclared : ∀ s, Sources.empty.loadAll ⟨.directory [], []⟩ usersLoads = .ok s →
      ¬ s.document.definesDirective "connection" := by
    intro s loaded
    cases loaded
    decide
  obtain ⟨p, paged⟩ : ∃ p, paginateAll? ⟨.directory [], []⟩ .default usersLoads = some p :=
    ⟨_, rfl⟩
  refine ⟨p, paged, ?_⟩
  have same := shown_paginateAll?_markerDeclaration ⟨.directory [], []⟩ .default rfl
    (some "marker.graphql") usersLoads undeclared
  rw [paged] at same
  exact same

end PagedSchema
