/-
The errors that paging finds in the document it made, told from those of the document it was given.
-/
import PagedSchema.Proofs.Agreement

namespace PagedSchema

namespace SchemaError

def isDuplicateDirective : SchemaError → Bool
  | duplicateDirective .. => true
  | _ => false

def isDuplicateType : SchemaError → Bool
  | duplicateType .. => true
  | _ => false

end SchemaError

open SchemaError Check

namespace Document

/-- Duplicates are found by the names that are defined, not by checks. -/
theorem not_duplicate_of_mem_failedChecks {defined : List String}
    {seen : Table Coordinate Location} {checks : List Check} {e : SchemaError}
    (member : e ∈ failedChecks defined seen checks) :
    e.isDuplicateDirective = false ∧ e.isDuplicateType = false := by
  obtain ⟨c, -, before, failed⟩ := exists_of_mem_failedChecks member
  cases c with
  | declares field location =>
      obtain ⟨first, -, rfl⟩ := Option.map_eq_some_iff.mp failed
      exact ⟨rfl, rfl⟩
  | repeatsArgument field argument location =>
      cases failed
      exact ⟨rfl, rfl⟩
  | refers name referencedBy location =>
      simp only [failure?] at failed
      split at failed
      · cases failed
      · cases failed
        exact ⟨rfl, rfl⟩
  | «extends» type location =>
      simp only [failure?] at failed
      split at failed
      · cases failed
      · cases failed
        exact ⟨rfl, rfl⟩

section Duplicates

variable {doc : Document} {settings : Settings}

/-- Where each type is defined once, all duplicates are directives. -/
theorem duplicate_of_mem_duplicateDefinitions (once : doc.definedTypes.Nodup) {e : SchemaError}
    (member : e ∈ doc.duplicateDefinitions) :
    e.isDuplicateDirective = true ∧ e.isDuplicateType = false := by
  obtain ⟨⟨name, first, second⟩, repeated, rfl⟩ := List.mem_map.mp member
  cases name with
  | directive name => exact ⟨rfl, rfl⟩
  | type name =>
      have twice := duplicate_of_mem_repeatsFrom rfl repeated
      change List.Duplicate _ (doc.definitionEntries.map Prod.fst) at twice
      rw [map_fst_definitionEntries, List.duplicate_iff_sublist] at twice
      have types := twice.filterMap DefinedName.type?
      rw [filterMap_type?_definedNames] at types
      exact absurd once (List.duplicate_iff_sublist.mpr types).not_nodup

theorem definitionEntries_append (xs ys : Document) :
    definitionEntries (xs ++ ys) = definitionEntries xs ++ definitionEntries ys :=
  List.filterMap_append

theorem nodup_definedNames_front : (doc.front settings).definedNames.Nodup := by
  rw [DefinedName.nodup_iff, filterMap_type?_definedNames, filterMap_directive?_definedNames,
    definedTypes_front, directiveNames_front]
  refine ⟨Survey.nodup_generatedNames _, ?_⟩
  split
  · exact List.nodup_nil
  · exact List.nodup_singleton _

theorem not_mem_definedNames_of_front (free : (doc.survey settings).Free) {name : DefinedName}
    (member : name ∈ (doc.front settings).definedNames) : name ∉ doc.definedNames := by
  cases name with
  | type name =>
      rw [← DefinedName.mem_filterMap_type?, filterMap_type?_definedNames] at member ⊢
      rw [definedTypes_front] at member
      exact doc.not_mem_definedTypes_of_generated settings free member
  | directive name =>
      rw [← DefinedName.mem_filterMap_directive?, filterMap_directive?_definedNames] at member ⊢
      rw [directiveNames_front] at member
      split at member
      · cases member
      · rename_i undeclared
        rw [List.mem_singleton.mp member]
        exact undeclared

theorem duplicateDefinitions_paged (free : (doc.survey settings).Free) :
    duplicateDefinitions (doc.front settings ++ doc.connected settings) =
      doc.duplicateDefinitions := by
  change (repeats (definitionEntries (_ ++ _))).map _ = (repeats doc.definitionEntries).map _
  rw [definitionEntries_append, connected, definitionEntries_mapFields, repeats,
    repeatsFrom_append_left]
  · rfl
  · rw [map_fst_definitionEntries]
    exact nodup_definedNames_front
  · exact fun _ _ => rfl
  · simp only [map_fst_definitionEntries]
    exact fun _ member => not_mem_definedNames_of_front free member

end Duplicates

/-- The errors that the generated types of a base type lead to. -/
def generatedErrors (doc : Document) (names : List String) (base : String) : List SchemaError :=
  (if isBuiltinScalar base ∨ base ∈ doc.definedTypes ∨ base ∈ names then []
    else [.undefinedType base (base ++ "Edge.node") .generated]) ++
  (if "PageInfo" ∈ doc.extendedTypes ∧ "PageInfo" ∉ doc.definedTypes then
    [.undefinedType "PageInfo" (base ++ "Connection.pageInfo") .generated]
    else [])

theorem not_duplicateType_of_mem_generatedErrors {doc : Document} {names : List String}
    {base : String} {e : SchemaError} (member : e ∈ doc.generatedErrors names base) :
    e.isDuplicateType = false := by
  rcases List.mem_append.mp member with own | pageInfo
  · split at own
    · cases own
    · rw [List.mem_singleton.mp own]
      rfl
  · split at pageInfo
    · rw [List.mem_singleton.mp pageInfo]
      rfl
    · cases pageInfo

end Document

namespace Check

variable (base : String) (hint : List Directive)

theorem ofType_edge : ofType ⟨.generated, Generated.edge base hint⟩ =
    [declares ⟨edgeName base, "cursor"⟩ .generated,
      refers "String" (Coordinate.text ⟨edgeName base, "cursor"⟩) .generated,
      declares ⟨edgeName base, "node"⟩ .generated,
      refers base (Coordinate.text ⟨edgeName base, "node"⟩) .generated] := rfl

theorem ofType_connection : ofType ⟨.generated, Generated.connection base hint⟩ =
    [declares ⟨connectionName base, "totalCount"⟩ .generated,
      refers "Int" (Coordinate.text ⟨connectionName base, "totalCount"⟩) .generated,
      declares ⟨connectionName base, "edges"⟩ .generated,
      refers (edgeName base) (Coordinate.text ⟨connectionName base, "edges"⟩) .generated,
      declares ⟨connectionName base, "pageInfo"⟩ .generated,
      refers pageInfoName (Coordinate.text ⟨connectionName base, "pageInfo"⟩) .generated] := rfl

theorem text_node : Coordinate.text ⟨edgeName base, "node"⟩ = base ++ "Edge.node" := by
  change base ++ "Edge" ++ "." ++ "node" = _
  rw [String.append_assoc, String.append_assoc]
  rfl

theorem text_pageInfo :
    Coordinate.text ⟨connectionName base, "pageInfo"⟩ = base ++ "Connection.pageInfo" := by
  change base ++ "Connection" ++ "." ++ "pageInfo" = _
  rw [String.append_assoc, String.append_assoc]
  rfl

theorem failure?_refers (defined : List String) (seen : Table Coordinate Location)
    (name referencedBy : String) (location : Location) :
    failure? defined seen (refers name referencedBy location) =
      if isBuiltinScalar name ∨ name ∈ defined then none
      else some (.undefinedType name referencedBy location) := by
  simp only [failure?, Bool.or_eq_true, List.contains_iff_mem]

end Check

namespace Document

variable {doc : Document} {settings : Settings}

/-- Page information is either generated or named by the document. -/
theorem pageInfo_resolves_iff :
    (isBuiltinScalar pageInfoName ∨
        pageInfoName ∈ (doc.survey settings).generatedNames ++ doc.definedTypes) ↔
      ¬ ("PageInfo" ∈ doc.extendedTypes ∧ "PageInfo" ∉ doc.definedTypes) := by
  rw [List.mem_append, Survey.pageInfoName_mem_generatedNames_iff, hasType_iff, mem_typeNames_iff]
  change (false = true ∨ _) ↔ ¬ (pageInfoName ∈ doc.extendedTypes ∧ pageInfoName ∉ _)
  tauto

/-- The checks of an edge and a connection fail where the base type or page information is not
defined. -/
theorem failures_pair {base : String} (hint : List Directive)
    (marked : base ∈ (doc.survey settings).baseTypes) :
    (ofType ⟨.generated, Generated.edge base hint⟩ ++
        ofType ⟨.generated, Generated.connection base hint⟩).filterMap
      (failure? ((doc.survey settings).generatedNames ++ doc.definedTypes) .empty) =
    doc.generatedErrors (doc.survey settings).generatedNames base := by
  have edge : edgeName base ∈ (doc.survey settings).generatedNames ++ doc.definedTypes := by
    exact List.mem_append_left _ (Survey.edgeName_mem_generatedNames _ marked)
  have declared : ∀ field location, failure?
      ((doc.survey settings).generatedNames ++ doc.definedTypes) .empty
      (declares field location) = none := fun _ _ => rfl
  have string : isBuiltinScalar "String" = true := rfl
  have int : isBuiltinScalar "Int" = true := rfl
  have own : (isBuiltinScalar base ∨
        base ∈ (doc.survey settings).generatedNames ++ doc.definedTypes) ↔
      isBuiltinScalar base ∨ base ∈ doc.definedTypes ∨
        base ∈ (doc.survey settings).generatedNames := by
    rw [List.mem_append, or_comm (a := base ∈ _)]
  rw [ofType_edge, ofType_connection, text_node, text_pageInfo, generatedErrors]
  simp only [List.cons_append, List.nil_append, List.filterMap_cons, List.filterMap_nil, declared,
    failure?_refers, string, int, edge, true_or, or_true, if_true, own,
    pageInfo_resolves_iff]
  by_cases resolved : isBuiltinScalar base ∨ base ∈ doc.definedTypes ∨
      base ∈ (doc.survey settings).generatedNames <;>
    by_cases extended : "PageInfo" ∈ doc.extendedTypes ∧ "PageInfo" ∉ doc.definedTypes <;>
    simp only [resolved, extended, if_true, if_false, not_false_eq_true] <;>
    rfl

theorem checks_front : (doc.front settings).checks =
    ((doc.survey settings).generatedTypes settings).flatMap fun d => ofType ⟨.generated, d⟩ := by
  have declarations : (doc.markerDeclarations settings.marker).checks = [] := by
    unfold markerDeclarations
    split <;> rfl
  rw [front, checks_append, declarations, List.append_nil, checks, ofGenerated, List.flatMap_map]
  rfl

/-- The checks of generated types report what base types and page information lack. -/
theorem failedChecks_front :
    failedChecks ((doc.survey settings).generatedNames ++ doc.definedTypes) .empty
        (doc.front settings).checks =
      (doc.survey settings).baseTypes.flatMap
        (doc.generatedErrors (doc.survey settings).generatedNames) := by
  have pageInfo : (if (doc.survey settings).hasType pageInfoName then []
      else [Generated.pageInfo]).flatMap (fun d => (ofType ⟨.generated, d⟩).filterMap
        (failure? ((doc.survey settings).generatedNames ++ doc.definedTypes) .empty)) = [] := by
    split <;> rfl
  rw [failedChecks_of_fresh, checks_front, List.filterMap_flatMap, Survey.generatedTypes,
    List.flatMap_append, pageInfo, List.nil_append, List.flatMap_assoc, Survey.specs,
    List.flatMap_map]
  · apply List.flatMap_congr
    intro base marked
    rw [← failures_pair _ marked, List.filterMap_append]
    exact congrArg (_ ++ ·) (List.append_nil _)
  · rw [declared_checks]
    exact nodup_coordinates_front
  · exact fun _ _ => rfl

/-- What the front declares does not matter to the rest. -/
theorem failedChecks_after_front (free : (doc.survey settings).Free) (defined : List String) :
    failedChecks defined (recordAll .empty (doc.front settings).checks)
        (doc.connected settings).checks =
      failedChecks defined .empty (doc.connected settings).checks := by
  apply failedChecks_congr
  intro field later
  apply get?_recordAll
  rw [declared_checks] at later ⊢
  rw [connected, coordinates_mapFields (Survey.pageField_name _ settings.marker)] at later
  intro new
  exact doc.not_mem_typeNames_of_generated settings free
    (type_mem_generatedNames_of_coordinates_front new)
    (doc.type_mem_typeNames_of_coordinates later)

theorem errors_paged (free : (doc.survey settings).Free)
    (clear : ¬ doc.Conflicts settings.marker) :
    errors (doc.front settings ++ doc.connected settings) =
      doc.duplicateDefinitions ++
        ((doc.survey settings).baseTypes.flatMap
            (doc.generatedErrors (doc.survey settings).generatedNames) ++
          ((labelledFailures doc.definedTypes .empty (doc.labelledChecks settings.marker)).filter
            (stays (doc.survey settings).generatedNames)).map Prod.fst) := by
  rw [errors, typeDefinitions_map_name, definedTypes_paged, checks_append, failedChecks_append,
    duplicateDefinitions_paged free, failedChecks_front, failedChecks_after_front free,
    (agrees_document free clear).reported]

/-- The reports of a document apart from duplicate definitions are those of its checks. -/
theorem filter_reports (once : doc.definedTypes.Nodup) (marker : String) (names : List String) :
    (doc.reports marker).filter (fun r => !r.1.isDuplicateDirective && stays names r) =
      (labelledFailures doc.definedTypes .empty (doc.labelledChecks marker)).filter
        (stays names) := by
  have duplicates : (doc.duplicateDefinitions.map (·, false)).filter
      (fun r => !r.1.isDuplicateDirective && stays names r) = [] := by
    rw [List.filter_eq_nil_iff, List.forall_mem_map]
    intro e member
    simp [(duplicate_of_mem_duplicateDefinitions once member).1]
  rw [reports, List.filter_append, duplicates, List.nil_append]
  apply List.filter_congr
  intro r member
  have failed := List.mem_map_of_mem (f := Prod.fst) member
  rw [map_fst_labelledFailures] at failed
  rw [(not_duplicate_of_mem_failedChecks failed).1]
  rfl

theorem filter_errors (once : doc.definedTypes.Nodup) :
    doc.errors.filter isDuplicateDirective = doc.duplicateDefinitions := by
  rw [errors, List.filter_append]
  have all : doc.duplicateDefinitions.filter isDuplicateDirective = doc.duplicateDefinitions :=
    List.filter_eq_self.mpr fun e member => (duplicate_of_mem_duplicateDefinitions once member).1
  have none_left : (failedChecks (doc.typeDefinitions.map (·.decl.name)) .empty
      doc.checks).filter isDuplicateDirective = [] := by
    rw [List.filter_eq_nil_iff]
    intro e member
    simp [(not_duplicate_of_mem_failedChecks member).1]
  rw [all, none_left, List.append_nil]

theorem not_duplicateType_of_mem_errors (once : doc.definedTypes.Nodup) {e : SchemaError}
    (member : e ∈ doc.errors) : e.isDuplicateType = false := by
  rcases List.mem_append.mp member with duplicate | failed
  · exact (duplicate_of_mem_duplicateDefinitions once duplicate).2
  · exact (not_duplicate_of_mem_failedChecks failed).2

/-- Paging keeps the errors of a document, duplicate directives first, but for undefined types that
are generated and for those that marked fields returned. In between stand the errors that the
generated types of each base type lead to. -/
theorem errors_of_connect (once : doc.definedTypes.Nodup)
    (free : ¬ doc.Collides settings.marker) (clear : ¬ doc.Conflicts settings.marker) :
    ∃ types document connected,
      (doc.survey settings).generate settings = .ok types ∧
      (doc.survey settings).connect settings (doc.withGenerated types settings) =
        (document, .ok connected) ∧
      (doc.reports settings.marker).map Prod.fst = doc.errors ∧
      document.errors =
        doc.errors.filter isDuplicateDirective ++
          ((doc.survey settings).baseTypes.flatMap (doc.generatedErrors (types.map (·.name))) ++
            ((doc.reports settings.marker).filter fun r =>
              !r.1.isDuplicateDirective && stays (types.map (·.name)) r).map Prod.fst) ∧
      (∀ e ∈ document.errors, e.isDuplicateType = false) ∧
      ∀ e ∈ document.errors, e ∈ doc.errors ∨
        ∃ base ∈ (doc.survey settings).baseTypes,
          e ∈ doc.generatedErrors (types.map (·.name)) base := by
  have free' : (doc.survey settings).Free := (doc.free_survey_iff settings).mpr free
  have exact_list : errors (doc.front settings ++ doc.connected settings) =
      doc.errors.filter isDuplicateDirective ++
        ((doc.survey settings).baseTypes.flatMap
            (doc.generatedErrors (doc.survey settings).generatedNames) ++
          ((doc.reports settings.marker).filter fun r => !r.1.isDuplicateDirective &&
            stays (doc.survey settings).generatedNames r).map Prod.fst) := by
    rw [errors_paged free' clear, filter_errors once, filter_reports once]
  have origin : ∀ e ∈ errors (doc.front settings ++ doc.connected settings), e ∈ doc.errors ∨
      ∃ base ∈ (doc.survey settings).baseTypes,
        e ∈ doc.generatedErrors (doc.survey settings).generatedNames base := by
    intro e member
    rw [exact_list, List.mem_append, List.mem_append, List.mem_flatMap] at member
    rcases member with duplicate | generated | kept
    · exact .inl (List.mem_of_mem_filter duplicate)
    · exact .inr generated
    · obtain ⟨r, reported, rfl⟩ := List.mem_map.mp kept
      rw [← doc.map_fst_reports settings.marker]
      exact .inl (List.mem_map_of_mem (List.mem_of_mem_filter reported))
  refine ⟨_, _, _, Survey.generate_of_free _ settings free', connect_withGenerated free' clear,
    doc.map_fst_reports settings.marker, ?_, ?_, ?_⟩
  · rw [Survey.map_name_generatedTypes]
    exact exact_list
  · intro e member
    rcases origin e member with old | ⟨base, -, generated⟩
    · exact not_duplicateType_of_mem_errors once old
    · exact not_duplicateType_of_mem_generatedErrors generated
  · rw [Survey.map_name_generatedTypes]
    exact origin

/-- A marked field of a type that is nowhere defined, in a schema with other errors. -/
def danglingSchema : Document :=
  ofSource "schema.graphql"
    [.directive ⟨⟨1, 1⟩, none, "tag", [], false, [.fieldDefinition]⟩,
     .type ⟨.definition none, ⟨2, 1⟩, "Query", [], .output .object []
      [⟨⟨2, 14⟩, none, "posts", [], .list (.named "Post"), [⟨⟨2, 29⟩, "connection", []⟩]⟩,
       ⟨⟨2, 41⟩, none, "top", [], .named "PostEdge", []⟩,
       ⟨⟨2, 54⟩, none, "author", [], .named "Author", []⟩]⟩,
     .directive ⟨⟨3, 1⟩, none, "tag", [], false, [.fieldDefinition]⟩]

theorem errors_of_connect_danglingSchema :
    ∃ types document connected,
      (danglingSchema.survey .default).generate .default = .ok types ∧
      (danglingSchema.survey .default).connect .default
          (danglingSchema.withGenerated types .default) = (document, .ok connected) ∧
      document.errors =
        [.duplicateDirective "tag" (.at "schema.graphql" ⟨1, 1⟩) (.at "schema.graphql" ⟨3, 1⟩),
         .undefinedType "Post" "PostEdge.node" .generated,
         .undefinedType "Author" "Query.author" (.at "schema.graphql" ⟨2, 54⟩)] := by
  have once : danglingSchema.definedTypes.Nodup := by decide
  have free : ¬ danglingSchema.Collides Settings.default.marker := by decide
  have clear : ¬ danglingSchema.Conflicts Settings.default.marker := by decide
  obtain ⟨types, document, connected, generated, walked, -, listed, -⟩ :=
    errors_of_connect once free clear
  have names : types = _ := (Except.ok.inj generated).symm
  refine ⟨types, document, connected, generated, walked, ?_⟩
  rw [listed, names]
  rfl

end Document

end PagedSchema
