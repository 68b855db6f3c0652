/-
The document that paging makes: generated types and the marker's declaration in front, and then the
document with its marked fields as connections.
-/
import PagedSchema.Proofs.Connecting

namespace PagedSchema.Document

/-- Generated types as part of a document. -/
def ofGenerated (types : List TypeDecl) : Document := types.map fun d => ⟨.generated, .type d⟩

variable (doc : Document) (settings : Settings)

/-- What paging puts in front of a document. -/
def front : Document :=
  ofGenerated ((doc.survey settings).generatedTypes settings) ++
    doc.markerDeclarations settings.marker

/-- The document with its marked fields as connections. -/
def connected : Document := doc.mapFields ((doc.survey settings).pageField settings.marker)

/-- Whether a marked field has an argument with the name of a pagination argument. -/
def Conflicts (marker : String) : Prop :=
  ∃ entry ∈ doc.markedDeclarations marker, ∃ a ∈ entry.2.arguments, a.name ∈ paginationNames

instance (marker : String) : Decidable (doc.Conflicts marker) := by
  unfold Conflicts
  infer_instance

section Selection

variable {doc settings} {type : String} {f : Field}

theorem selected?_of_not_marked (survey : Survey) {marker : String}
    (plain : ¬ hasDirective f.directives marker) : survey.selected? marker type f = none := by
  unfold Survey.selected?
  rw [if_neg plain]

theorem not_marked_toConnection (f : Field) (base marker : String) :
    ¬ hasDirective (f.toConnection base marker).directives marker := by
  simp [Field.toConnection, hasDirective]

theorem selected?_of_not_mem_typeNames (marker : String) (new : type ∉ doc.typeNames) :
    (doc.survey settings).selected? marker type f = none := by
  unfold Survey.selected?
  rw [doc.get?_marked_eq_none settings new]
  split <;> rfl

theorem exists_selected? (member : (type, f) ∈ doc.outputFields)
    (marked : hasDirective f.directives settings.marker) :
    ∃ base ∈ doc.markedBases settings.marker,
      (doc.survey settings).selected? settings.marker type f = some base := by
  obtain ⟨base, known, found⟩ := doc.exists_get?_marked settings member marked
  refine ⟨base, known, ?_⟩
  unfold Survey.selected?
  rw [if_pos marked, found]

/-- A field of the document is selected exactly if it is marked. -/
theorem selected?_isSome_iff (member : (type, f) ∈ doc.outputFields) :
    ((doc.survey settings).selected? settings.marker type f).isSome ↔
      hasDirective f.directives settings.marker := by
  by_cases marked : hasDirective f.directives settings.marker
  · obtain ⟨base, -, found⟩ := exists_selected? member marked
    simp [found, marked]
  · rw [selected?_of_not_marked _ marked]
    simp [marked]

theorem passable_of_not_conflicts (clear : ¬ doc.Conflicts settings.marker)
    (member : (type, f) ∈ doc.outputFields) :
    (doc.survey settings).Passable settings.marker type f := by
  intro selected a present pagination
  exact clear ⟨(type, f),
    doc.mem_markedDeclarations.mpr ⟨member, (selected?_isSome_iff member).mp selected⟩,
    a, present, (isPaginationArgument_iff a.name).mp pagination⟩

end Selection

theorem outputFields_ofGenerated (types : List TypeDecl) :
    (ofGenerated types).outputFields =
      types.flatMap fun d => d.outputFields.map (d.name, ·) := by
  rw [outputFields_eq_flatMap, definitions, ofGenerated, List.map_map, List.flatMap_map]
  rfl

theorem outputFields_markerDeclarations (marker : String) :
    (doc.markerDeclarations marker).outputFields = [] := by
  unfold markerDeclarations
  split <;> rfl

/-- Every field in front belongs to a generated type. -/
theorem exists_of_mem_outputFields_front {entry : String × Field}
    (member : entry ∈ (doc.front settings).outputFields) :
    ∃ d ∈ (doc.survey settings).generatedTypes settings, ∃ f ∈ d.outputFields,
      (d.name, f) = entry := by
  rw [front, outputFields_append, outputFields_markerDeclarations, List.append_nil,
    outputFields_ofGenerated] at member
  obtain ⟨d, generated, declared⟩ := List.mem_flatMap.mp member
  obtain ⟨f, present, same⟩ := List.mem_map.mp declared
  exact ⟨d, generated, f, present, same⟩

theorem name_mem_of_outputFields_front {entry : String × Field}
    (member : entry ∈ (doc.front settings).outputFields) :
    entry.1 ∈ (doc.survey settings).generatedNames := by
  obtain ⟨d, generated, f, -, rfl⟩ := doc.exists_of_mem_outputFields_front settings member
  rw [← Survey.map_name_generatedTypes _ settings]
  exact List.mem_map_of_mem generated

variable {doc settings}

/-- The walk selects nothing in front, also where the hint directive is the marker. -/
theorem selected?_front (free : (doc.survey settings).Free) {entry : String × Field}
    (member : entry ∈ (doc.front settings).outputFields) :
    (doc.survey settings).selected? settings.marker entry.1 entry.2 = none :=
  selected?_of_not_mem_typeNames _
    (doc.not_mem_typeNames_of_generated settings free
      (doc.name_mem_of_outputFields_front settings member))

theorem mapFields_front (free : (doc.survey settings).Free) :
    (doc.front settings).mapFields ((doc.survey settings).pageField settings.marker) =
      doc.front settings := by
  apply mapFields_eq_self
  intro entry member
  unfold Survey.pageField
  rw [selected?_front free member]

theorem flatMap_ite_singleton {α β : Type} (p : α → Bool) (h : α → β) (l : List α) :
    (l.flatMap fun a => if p a then [h a] else []) = (l.filter p).map h := by
  induction l with
  | nil => rfl
  | cons a rest ih =>
      rw [List.flatMap_cons, ih, List.filter_cons]
      split <;> rfl

/-- The walk reports the marked fields in order. -/
theorem pageCoordinates_eq (doc : Document) (settings : Settings) :
    (doc.outputFields.flatMap fun entry =>
        (doc.survey settings).pageCoordinate settings.marker entry.1 entry.2) =
      (doc.markedFields settings.marker).map (·.1) := by
  have alone : ∀ entry ∈ doc.outputFields,
      (doc.survey settings).pageCoordinate settings.marker entry.1 entry.2 =
        if hasDirective entry.2.directives settings.marker
        then [(⟨entry.1, entry.2.name⟩ : Coordinate)] else [] := by
    intro entry member
    unfold Survey.pageCoordinate
    by_cases marked : hasDirective entry.2.directives settings.marker
    · obtain ⟨base, -, found⟩ := exists_selected? member marked
      rw [found, if_pos marked]
    · rw [selected?_of_not_marked _ marked, if_neg marked]
  rw [List.flatMap_congr alone, markedFields, List.map_map]
  exact flatMap_ite_singleton _ _ _

/-- The walk leaves what paging puts in front as it is, and goes on with the document. -/
theorem connect_generatedTypes (free : (doc.survey settings).Free) :
    (doc.survey settings).connect settings
        (doc.withGenerated ((doc.survey settings).generatedTypes settings) settings) =
      (doc.front settings ++ ((doc.survey settings).connect settings doc).1,
        ((doc.survey settings).connect settings doc).2) := by
  have front : (doc.survey settings).connect settings (doc.front settings) =
      (doc.front settings, .ok []) := by
    have nothing : ((doc.front settings).outputFields.flatMap fun entry =>
        (doc.survey settings).pageCoordinate settings.marker entry.1 entry.2) = [] := by
      rw [List.flatMap_eq_nil_iff]
      intro entry member
      unfold Survey.pageCoordinate
      rw [selected?_front free member]
    rw [Survey.connect_of_passable, mapFields_front free, nothing]
    intro entry member selected
    rw [selected?_front free member] at selected
    cases selected
  change stepThrough ((doc.survey settings).connectDefinition settings.marker)
    (doc.front settings ++ doc) = _
  unfold Survey.connect at front ⊢
  rw [stepThrough_append, front]
  rcases stepThrough ((doc.survey settings).connectDefinition settings.marker) doc with
    ⟨document, conflict | connected⟩ <;> rfl

theorem connect_of_not_conflicts (clear : ¬ doc.Conflicts settings.marker) :
    (doc.survey settings).connect settings doc =
      (doc.connected settings, .ok ((doc.markedFields settings.marker).map (·.1))) := by
  rw [Survey.connect_of_passable fun entry member => passable_of_not_conflicts clear member,
    pageCoordinates_eq]
  rfl

theorem connect_withGenerated (free : (doc.survey settings).Free)
    (clear : ¬ doc.Conflicts settings.marker) :
    (doc.survey settings).connect settings
        (doc.withGenerated ((doc.survey settings).generatedTypes settings) settings) =
      (doc.front settings ++ doc.connected settings,
        .ok ((doc.markedFields settings.marker).map (·.1))) := by
  rw [connect_generatedTypes free, connect_of_not_conflicts clear]

theorem connect_of_conflicts (conflict : doc.Conflicts settings.marker) :
    ∃ e, ((doc.survey settings).connect settings doc).2 = .error e := by
  obtain ⟨entry, marked, a, present, pagination⟩ := conflict
  obtain ⟨member, carries⟩ := doc.mem_markedDeclarations.mp marked
  have stuck : ¬ (doc.survey settings).Passable settings.marker entry.1 entry.2 := by
    intro passable
    exact passable ((selected?_isSome_iff member).mpr carries) a present
      ((isPaginationArgument_iff a.name).mpr pagination)
  obtain ⟨left, e, failed⟩ := Survey.exists_connect_eq_error_iff.mpr ⟨entry, member, stuck⟩
  exact ⟨e, by rw [failed]⟩

end PagedSchema.Document
