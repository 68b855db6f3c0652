/-
Sources loaded behind others. What a survey of the document had found before stays at its place, and
so do the names that were generated for it.
-/
import PagedSchema.Proofs.AddedHints
import PagedSchema.Proofs.Generation
import PagedSchema.Proofs.SurveyContents

namespace PagedSchema

section Tables

variable {κ α : Type} [DecidableEq κ]

theorem prefix_upsertEntry_getD (k : κ) (v : α) (entries : List (κ × α)) :
    entries <+: upsertEntry k (·.getD v) entries := by
  induction entries with
  | nil => exact List.nil_prefix
  | cons entry rest ih =>
      obtain ⟨j, w⟩ := entry
      by_cases same : j = k
      · simp [upsertEntry, same]
      · simp only [upsertEntry, if_neg same]
        exact List.cons_prefix_cons.mpr ⟨rfl, ih⟩

theorem prefix_foldl_insertNew (entries : List (κ × α)) (t : Table κ α) :
    t.entries <+: (entries.foldl (fun t (k, v) => t.insertNew k v) t).entries := by
  induction entries generalizing t with
  | nil => exact List.prefix_rfl
  | cons entry rest ih =>
      obtain ⟨k, v⟩ := entry
      exact (prefix_upsertEntry_getD k v t.entries).trans (ih (t.insertNew k v))

theorem entries_ofFirst_prefix (xs ys : List (κ × α)) :
    (Table.ofFirst xs).entries <+: (Table.ofFirst (xs ++ ys)).entries := by
  unfold Table.ofFirst
  rw [List.foldl_append]
  exact prefix_foldl_insertNew ys _

theorem eraseDups_prefix (ks ls : List κ) : ks.eraseDups <+: (ks ++ ls).eraseDups := by
  rw [List.eraseDups_append]
  exact List.prefix_append _ _

/-- Values may be overwritten, but keys stay where they are. -/
theorem keys_ofLast_prefix (xs ys : List (κ × α)) :
    (Table.ofLast xs).keys <+: (Table.ofLast (xs ++ ys)).keys := by
  rw [Table.keys_ofLast, Table.keys_ofLast, List.map_append]
  exact eraseDups_prefix _ _

theorem repeatsFrom_prefix (seen : Table κ α) (xs ys : List (κ × α)) :
    repeatsFrom seen xs <+: repeatsFrom seen (xs ++ ys) := by
  induction xs generalizing seen with
  | nil => exact List.nil_prefix
  | cons entry rest ih =>
      obtain ⟨k, v⟩ := entry
      simp only [List.cons_append, repeatsFrom]
      cases seen.get? k with
      | some first => exact List.cons_prefix_cons.mpr ⟨rfl, ih seen⟩
      | none => exact ih _

theorem hintLe_ofGreatest (xs ys : List (κ × Int)) (k : κ) :
    HintLe ((Table.ofGreatest xs).get? k) ((Table.ofGreatest (xs ++ ys)).get? k) := by
  rw [Table.get?_ofGreatest, Table.get?_ofGreatest, hintLe_max?_iff]
  intro n member
  have kept : n ∈ valuesOf k (xs ++ ys) :=
    mem_valuesOf.mpr (List.mem_append_left ys (mem_valuesOf.mp member))
  exact ⟨n, kept, le_refl n⟩

end Tables

namespace Survey

/-- All that the first survey has found stands at the start of what the second one has. A marked
field may have another base type there, and a hint may have grown. -/
structure Continues (later earlier : Survey) : Prop where
  declared : earlier.declared.entries <+: later.declared.entries
  redefinitions : earlier.redefinitions <+: later.redefinitions
  marked : earlier.marked.keys <+: later.marked.keys
  baseTypes : earlier.baseTypes <+: later.baseTypes
  hints : ∀ type n, earlier.hints.get? type = some n →
    ∃ m, later.hints.get? type = some m ∧ n ≤ m

section Generating

variable {later earlier : Survey} {settings : Settings}

theorem Continues.get?_declared_eq_none (more : later.Continues earlier) {name : String}
    (absent : later.declared.get? name = none) : earlier.declared.get? name = none := by
  unfold Table.get? at absent ⊢
  rw [lookup_eq_none_iff_not_mem] at absent ⊢
  exact fun member => absent ((more.declared.map Prod.fst).subset member)

theorem Continues.free (more : later.Continues earlier) (free : later.Free) : earlier.Free := by
  intro base listed name pair
  exact more.get?_declared_eq_none (free base (more.baseTypes.subset listed) name pair)

/-- Without page information the generated names are the pairs of the base types. -/
theorem filter_generatedNames (survey : Survey) :
    survey.generatedNames.filter (· ≠ pageInfoName) = survey.baseTypes.flatMap pairNames := by
  have pairs : (survey.baseTypes.flatMap pairNames).filter (· ≠ pageInfoName) =
      survey.baseTypes.flatMap pairNames := by
    rw [List.filter_eq_self]
    intro name member
    obtain ⟨base, -, pair⟩ := List.mem_flatMap.mp member
    rw [decide_eq_true_iff]
    rintro rfl
    exact pageInfoName_not_mem_pairNames base pair
  unfold generatedNames
  rw [List.filter_append, pairs]
  split <;> simp

theorem Continues.generatedNames_prefix (more : later.Continues earlier) :
    earlier.generatedNames.filter (· ≠ pageInfoName) <+:
      later.generatedNames.filter (· ≠ pageInfoName) := by
  rw [filter_generatedNames, filter_generatedNames]
  obtain ⟨bases, listed⟩ := more.baseTypes
  rw [← listed, List.flatMap_append]
  exact List.prefix_append _ _

theorem Continues.exists_generate (more : later.Continues earlier) {types : List TypeDecl}
    (made : later.generate settings = .ok types) :
    ∃ first, earlier.generate settings = .ok first ∧
      (first.map (·.name)).filter (· ≠ pageInfoName) <+:
        (types.map (·.name)).filter (· ≠ pageInfoName) := by
  rw [generate_eq_ok_iff] at made
  obtain ⟨free, rfl⟩ := made
  refine ⟨_, earlier.generate_of_free settings (more.free free), ?_⟩
  rw [map_name_generatedTypes, map_name_generatedTypes]
  exact more.generatedNames_prefix

end Generating

end Survey

namespace Document

variable (doc more : Document)

theorem declarations_append : (doc ++ more).declarations = doc.declarations ++ more.declarations :=
  List.filterMap_append

theorem marks_append (marker : String) :
    (doc ++ more).marks marker = doc.marks marker ++ more.marks marker := List.flatMap_append

theorem types_append : (doc ++ more).types = doc.types ++ more.types := List.filterMap_append

theorem hintReadings_append (hints : Option CacheHints) :
    (doc ++ more).hintReadings hints = doc.hintReadings hints ++ more.hintReadings hints := by
  cases hints with
  | none => rfl
  | some hints =>
      simp only [hintReadings, types_append, List.flatMap_append]

theorem redefinitions_prefix (settings : Settings) :
    (doc.survey settings).redefinitions <+: ((doc ++ more).survey settings).redefinitions := by
  apply List.IsPrefix.map
  rw [typeDefinitions, typeDefinitions, types_append, List.filter_append, List.map_append]
  exact repeatsFrom_prefix _ _ _

theorem continues_survey_append (settings : Settings) :
    ((doc ++ more).survey settings).Continues (doc.survey settings) where
  declared := by
    rw [declared_survey, declared_survey, declarations_append]
    exact entries_ofFirst_prefix _ _
  redefinitions := doc.redefinitions_prefix more settings
  marked := by
    rw [marked_survey, marked_survey, marks_append]
    exact keys_ofLast_prefix _ _
  baseTypes := by
    rw [baseTypes_survey, baseTypes_survey, marks_append, List.map_append]
    exact eraseDups_prefix _ _
  hints := by
    intro type
    have readings := doc.hintReadings_append more settings.cacheHints
    have grown := hintLe_ofGreatest (doc.hintReadings settings.cacheHints)
      (more.hintReadings settings.cacheHints) type
    rw [← readings] at grown
    exact grown

/-- Definitions behind a document leave at its place what a survey has found in the document, and no
hint gets lower. Where types can be generated for all, they can be for the document alone, and page
information apart their names come first. -/
theorem survey_append_continues (doc more : Document) (settings : Settings) :
    ((doc ++ more).survey settings).Continues (doc.survey settings) ∧
    ∀ types, ((doc ++ more).survey settings).generate settings = .ok types →
      ∃ first, (doc.survey settings).generate settings = .ok first ∧
        (first.map (·.name)).filter (· ≠ "PageInfo") <+:
          (types.map (·.name)).filter (· ≠ "PageInfo") :=
  ⟨doc.continues_survey_append more settings,
    fun _ made => (doc.continues_survey_append more settings).exists_generate made⟩

/-- A query with a list of posts and the posts, which have a hint. -/
def postsSource : Document :=
  ofSource "posts.graphql"
    [.type ⟨.definition none, ⟨1, 1⟩, "Query", [], .output .object []
      [⟨⟨1, 14⟩, none, "items", [], .list (.named "Post"), [⟨⟨1, 28⟩, "connection", []⟩]⟩]⟩,
     .type ⟨.definition none, ⟨2, 1⟩, "Post", [⟨⟨2, 11⟩, "cacheControl", [("maxAge", .int 60)]⟩],
      .scalar⟩]

/-- The same field marked again with another base type, page information, a second definition of
posts, and a higher hint for them. -/
def notesSource : Document :=
  ofSource "notes.graphql"
    [.type ⟨.extension, ⟨1, 1⟩, "Query", [], .output .object []
      [⟨⟨1, 21⟩, none, "items", [], .list (.named "Note"), [⟨⟨1, 35⟩, "connection", []⟩]⟩]⟩,
     .type ⟨.definition none, ⟨2, 1⟩, "PageInfo", [], .scalar⟩,
     .type ⟨.definition none, ⟨3, 1⟩, "Post", [⟨⟨3, 11⟩, "cacheControl", [("maxAge", .int 90)]⟩],
      .scalar⟩]

theorem survey_append_notesSource :
    let settings : Settings := ⟨"connection", some .default⟩
    ∃ types, ((postsSource ++ notesSource).survey settings).generate settings = .ok types ∧
      types.map (·.name) = ["PostEdge", "PostConnection", "NoteEdge", "NoteConnection"] ∧
      ∃ first, (postsSource.survey settings).generate settings = .ok first ∧
        first.map (·.name) = ["PageInfo", "PostEdge", "PostConnection"] ∧
        (first.map (·.name)).filter (· ≠ "PageInfo") <+:
          (types.map (·.name)).filter (· ≠ "PageInfo") := by
  intro settings
  obtain ⟨-, shorter⟩ := survey_append_continues postsSource notesSource settings
  have made : ((postsSource ++ notesSource).survey settings).generate settings =
      .ok (((postsSource ++ notesSource).survey settings).generatedTypes settings) := rfl
  obtain ⟨first, alone, names⟩ := shorter _ made
  have known : (postsSource.survey settings).generate settings =
      .ok ((postsSource.survey settings).generatedTypes settings) := rfl
  rw [known] at alone
  cases alone
  exact ⟨_, made, rfl, _, known, rfl, names⟩

end Document

end PagedSchema
