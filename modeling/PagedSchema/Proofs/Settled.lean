/-
Documents that paging leaves as they are. Whatever paging gives is one of them, and stays so when it
is loaded again.
-/
import PagedSchema.Proofs.Paginating
import PagedSchema.Proofs.Placement
import PagedSchema.Sources

namespace PagedSchema.Document

/-- Nothing is marked, and nothing that paging adds is missing. -/
structure Settled (doc : Document) (marker : String) : Prop where
  wellFormed : doc.WellFormed
  plain : ∀ entry ∈ doc.outputFields, ¬ hasDirective entry.2.directives marker
  pageInfo : pageInfoName ∈ doc.typeNames
  declared : marker ∈ doc.directiveNames

namespace Settled

variable {doc : Document} {settings : Settings}

theorem markedDeclarations_eq_nil {marker : String} (settled : doc.Settled marker) :
    doc.markedDeclarations marker = [] := by
  unfold markedDeclarations
  rw [List.filter_eq_nil_iff]
  exact settled.plain

theorem generatedNames_eq_nil {marker : String} (settled : doc.Settled marker) :
    doc.generatedNames marker = [] := by
  rw [generatedNames, if_pos settled.pageInfo, markedBases, settled.markedDeclarations_eq_nil]
  rfl

theorem generatedNames_survey_eq_nil (settled : doc.Settled settings.marker) :
    (doc.survey settings).generatedNames = [] := by
  apply List.eq_nil_iff_forall_not_mem.mpr
  intro name
  rw [mem_generatedNames_survey, settled.generatedNames_eq_nil]
  exact List.not_mem_nil

theorem front_eq_nil (settled : doc.Settled settings.marker) : doc.front settings = [] := by
  have types : (doc.survey settings).generatedTypes settings = [] := by
    have names := settled.generatedNames_survey_eq_nil
    rw [← Survey.map_name_generatedTypes _ settings] at names
    exact List.map_eq_nil_iff.mp names
  rw [front, types, markerDeclarations, if_pos ((doc.definesDirective_iff _).mpr settled.declared)]
  rfl

theorem connected_eq_self (settled : doc.Settled settings.marker) :
    doc.connected settings = doc :=
  mapFields_eq_self fun entry member => pageField_of_not_marked (settled.plain entry member)

theorem markedFields_eq_nil {marker : String} (settled : doc.Settled marker) :
    doc.markedFields marker = [] := by
  change (doc.markedDeclarations marker).map _ = []
  rw [settled.markedDeclarations_eq_nil]
  rfl

theorem paginate (settled : doc.Settled settings.marker) :
    doc.paginate settings = .ok ⟨doc, [], []⟩ := by
  have free : ¬ doc.Collides settings.marker := by
    rintro ⟨base, member, -⟩
    rw [markedBases, settled.markedDeclarations_eq_nil] at member
    cases member
  have clear : ¬ doc.Conflicts settings.marker := by
    rintro ⟨entry, member, -⟩
    rw [settled.markedDeclarations_eq_nil] at member
    cases member
  rw [paginate_of_wellFormed settled.wellFormed.typesOnce free clear, settled.front_eq_nil,
    settled.connected_eq_self, settled.markedFields_eq_nil, settled.generatedNames_survey_eq_nil]
  · rfl
  · rw [settled.generatedNames_eq_nil]
    exact settled.wellFormed

theorem of_alike {xs ys : Document} {marker : String} (alike : xs.Alike ys)
    (settled : xs.Settled marker) : ys.Settled marker where
  wellFormed := alike.wellFormedWith settled.wellFormed
  plain := by
    apply alike.forall_outputFields _ settled.plain
    intro type f
    rw [Field.unplaced, hasDirective_unplaced]
  pageInfo := alike.typeNames_eq ▸ settled.pageInfo
  declared := alike.directiveNames_eq ▸ settled.declared

end Settled

section Paged

variable {doc : Document} {settings : Settings}

theorem not_marked_pageField {type : String} {f : Field} (member : (type, f) ∈ doc.outputFields) :
    ¬ hasDirective ((doc.survey settings).pageField settings.marker type f).directives
      settings.marker := by
  by_cases marked : hasDirective f.directives settings.marker
  · obtain ⟨base, -, paged⟩ := exists_pageField_of_marked member marked
    rw [paged]
    exact not_marked_toConnection f base settings.marker
  · rw [pageField_of_not_marked marked]
    exact marked

theorem not_marked_connected {entry : String × Field}
    (member : entry ∈ (doc.connected settings).outputFields) :
    ¬ hasDirective entry.2.directives settings.marker := by
  rw [connected, outputFields_mapFields] at member
  obtain ⟨⟨type, f⟩, declared, rfl⟩ := List.mem_map.mp member
  exact not_marked_pageField declared

theorem pageInfoName_mem_typeNames_paged :
    pageInfoName ∈ typeNames (doc.front settings ++ doc.connected settings) := by
  rw [typeNames_append, List.mem_append, connected, typeNames_mapFields]
  by_cases named : pageInfoName ∈ doc.typeNames
  · exact .inr named
  · left
    rw [mem_typeNames_iff, definedTypes_front, Survey.pageInfoName_mem_generatedNames_iff,
      hasType_iff]
    exact .inl named

theorem marker_mem_directiveNames_paged :
    settings.marker ∈ directiveNames (doc.front settings ++ doc.connected settings) := by
  rw [directiveNames_append, List.mem_append, connected, directiveNames_mapFields,
    directiveNames_front]
  by_cases declared : settings.marker ∈ doc.directiveNames
  · exact .inr declared
  · left
    rw [if_neg declared]
    exact List.mem_cons_self

variable
  (distinct : ∀ hints, settings.cacheHints = some hints → hints.directive ≠ settings.marker)

include distinct

theorem not_marked_of_generated {survey : Survey} {d : TypeDecl}
    (generated : d ∈ survey.generatedTypes settings) {f : Field} (member : f ∈ d.outputFields) :
    ¬ hasDirective f.directives settings.marker := by
  obtain ⟨name, type, directives, rfl, rfl | ⟨hint, rfl⟩⟩ :=
    Survey.exists_plainField_of_generated generated member
  · exact Bool.false_ne_true
  · intro carries
    obtain ⟨hints, -, used, -, same⟩ :=
      (Generated.hasDirective_hintDirective_iff settings hint settings.marker).mp carries
    exact distinct hints used same

theorem not_marked_paged {entry : String × Field}
    (member : entry ∈ outputFields (doc.front settings ++ doc.connected settings)) :
    ¬ hasDirective entry.2.directives settings.marker := by
  rw [outputFields_append, List.mem_append] at member
  rcases member with new | old
  · obtain ⟨d, generated, f, present, rfl⟩ := doc.exists_of_mem_outputFields_front settings new
    exact not_marked_of_generated distinct generated present
  · exact not_marked_connected old

theorem settled_of_paginate_eq_ok {p : Paged} (paged : doc.paginate settings = .ok p) :
    p.document.Settled settings.marker := by
  obtain ⟨free, clear, wellFormed⟩ := of_paginate_eq_ok paged
  rw [eq_of_paginate_eq_ok paged]
  exact {
    wellFormed :=
      (wellFormed_paged_iff ((doc.free_survey_iff settings).mpr free) clear).mpr wellFormed
    plain := fun _ member => not_marked_paged distinct member
    pageInfo := pageInfoName_mem_typeNames_paged
    declared := marker_mem_directiveNames_paged }

end Paged

theorem definitions_ofSource (path : String) (ds : List Definition) :
    (ofSource path ds).definitions = ds := by
  unfold ofSource definitions
  rw [List.map_map]
  exact List.map_id ds

/-- Paging a paged schema again, from its definitions or from its text, changes nothing. -/
theorem paginate_again {doc : Document} {settings : Settings} {p : Paged}
    (distinct : ∀ hints, settings.cacheHints = some hints → hints.directive ≠ settings.marker)
    (paged : doc.paginate settings = .ok p) :
    (∀ path, ∃ q,
      (Sources.empty.add path p.document.definitions).document.paginate settings = .ok q ∧
        q.generated = [] ∧ q.connected = [] ∧
        q.document.definitions = p.document.definitions) ∧
    ∀ definitions, Sdl.parse p.sdl = .ok definitions →
      definitions.map (·.unplaced) = p.document.definitions.map (·.unplaced) →
        ∃ sources q, Sources.empty.addText none p.sdl = .ok sources ∧
          sources.document.paginate settings = .ok q ∧ q.sdl = p.sdl := by
  have settled := settled_of_paginate_eq_ok distinct paged
  constructor
  · intro path
    have same : (Sources.empty.add path p.document.definitions).document.definitions =
        p.document.definitions := definitions_ofSource _ _
    have again := settled.of_alike (.of_definitions same.symm)
    exact ⟨_, again.paginate, rfl, rfl, same⟩
  · intro definitions parsed alike
    have loaded : Sources.empty.addText none p.sdl =
        .ok (Sources.empty.add none definitions) := by
      unfold Sources.addText
      rw [parsed]
      rfl
    have same : (Sources.empty.add none definitions).document.definitions = definitions :=
      definitions_ofSource _ _
    have again : (Sources.empty.add none definitions).document.Settled settings.marker := by
      refine settled.of_alike ?_
      unfold Alike
      rw [same, alike]
    refine ⟨_, _, loaded, again.paginate, ?_⟩
    unfold Paged.sdl
    rw [same]
    exact Sdl.print_congr alike

/-- A schema with one connection, and a hint on its field. -/
def friendsSchema : Document :=
  ofSource "schema.graphql"
    [.type ⟨.definition none, ⟨1, 1⟩, "User", [], .output .object []
      [⟨⟨2, 3⟩, none, "friends", [], .list (.named "User"),
        [⟨⟨2, 20⟩, "connection", []⟩, .ofInt "cacheControl" "maxAge" 60]⟩]⟩]

def hintedSettings : Settings := .withCacheHints .default .default

/-- The text that paging makes of it, one list of lines for each definition. -/
def friendsLines : List (List String) :=
  [["type PageInfo \x7b\n", "  hasNextPage: Boolean!\n", "  hasPreviousPage: Boolean!\n",
      "  startCursor: String\n", "  endCursor: String\n", "\x7d\n"],
    ["type UserEdge @cacheControl(maxAge: 60) \x7b\n", "  cursor: String!\n", "  node: User\n",
      "\x7d\n"],
    ["type UserConnection \x7b\n", "  totalCount: Int!\n",
      "  edges: [UserEdge] @cacheControl(maxAge: 60)\n",
      "  pageInfo: PageInfo! @cacheControl(maxAge: 60)\n", "\x7d\n"],
    ["directive @connection on FIELD_DEFINITION\n"],
    ["type User \x7b\n", "  friends(after: String, first: Int, before: String, last: Int): ",
      "UserConnection @cacheControl(maxAge: 60)\n", "\x7d\n"]]

def friendsText : String := "\n".intercalate (friendsLines.map String.join)

theorem exists_paginate_friendsSchema :
    ∃ p, friendsSchema.paginate hintedSettings = .ok p ∧
      p.generated = ["PageInfo", "UserEdge", "UserConnection"] ∧
      p.connected = [⟨"User", "friends"⟩] ∧
      p.document.definitions.map Sdl.printDefinition = friendsLines.map String.join := by
  refine ⟨_, rfl, rfl, rfl, ?_⟩
  rfl

set_option maxRecDepth 4000 in
/-- The text is lexed first, so that the parser meets tokens that stand evaluated. -/
theorem exists_parse_friendsText :
    ∃ p definitions, friendsSchema.paginate hintedSettings = .ok p ∧
      Sdl.parse friendsText = .ok definitions ∧
      definitions.map (·.unplaced) = p.document.definitions.map (·.unplaced) := by
  have lexed : ∃ read, Sdl.tokens friendsText = read ∧
      ∃ p definitions left, friendsSchema.paginate hintedSettings = .ok p ∧
        Sdl.Grammar.document.run read = .ok (definitions, left) ∧
        definitions.map (·.unplaced) = p.document.definitions.map (·.unplaced) := by
    refine ⟨?read, ?lexed, ?parsed⟩
    case lexed =>
      unfold friendsText Sdl.tokens
      rewrite [String.toList_intercalate, List.map_map, Function.comp_def]
      simp only [String.toList_join]
      simp [friendsLines, List.intercalate, List.intersperse, List.takeWhile, Sdl.maxNesting,
        Sdl.tokensFrom, Sdl.piece, Sdl.isNameStart, Sdl.isNameChar, Sdl.endsNumeral,
        Sdl.Punctuator.ofChar?, Sdl.roomAfter?, Position.right, Position.nextLine, Sdl.numeral?,
        Sdl.hasFractionMark, Sdl.int?, Sdl.splitMinus, Sdl.isWholePart, Sdl.fitsInt64,
        Sdl.natOfDigits, Sdl.signed]
      exact rfl
    case parsed => exact ⟨_, _, _, rfl, rfl, rfl⟩
  obtain ⟨read, lexed, p, definitions, left, paged, parsed, alike⟩ := lexed
  refine ⟨p, definitions, paged, ?_, alike⟩
  unfold Sdl.parse
  rw [lexed, parsed]
  rfl

theorem paginate_again_friendsSchema :
    ∃ p, friendsSchema.paginate hintedSettings = .ok p ∧
      p.generated = ["PageInfo", "UserEdge", "UserConnection"] ∧
      p.connected = [⟨"User", "friends"⟩] ∧ p.sdl = friendsText ∧
      (∃ q, (Sources.empty.add none p.document.definitions).document.paginate hintedSettings =
          .ok q ∧ q.generated = [] ∧ q.connected = [] ∧
        q.document.definitions = p.document.definitions) ∧
      ∃ sources q, Sources.empty.addText none p.sdl = .ok sources ∧
        sources.document.paginate hintedSettings = .ok q ∧ q.sdl = p.sdl := by
  have distinct : ∀ hints, hintedSettings.cacheHints = some hints →
      hints.directive ≠ hintedSettings.marker := by
    rintro hints ⟨⟩
    decide
  obtain ⟨p, paged, generated, connected, printed⟩ := exists_paginate_friendsSchema
  have text : p.sdl = friendsText := congrArg ("\n".intercalate ·) printed
  obtain ⟨p', definitions, paged', parsed, alike⟩ := exists_parse_friendsText
  obtain rfl : p = p' := Except.ok.inj (paged.symm.trans paged')
  obtain ⟨reloaded, reread⟩ := paginate_again distinct paged
  exact ⟨p, paged, generated, connected, text, reloaded none,
    reread definitions (text ▸ parsed) alike⟩

end PagedSchema.Document
