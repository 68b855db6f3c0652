/-
Generated types. Their names are new to the schema and differ from one another: no base type has a
name of another one among its generated names, whatever it is called itself.
-/
import PagedSchema.Connection.Paging
import PagedSchema.Proofs.Survey

namespace PagedSchema

theorem edgeName_injective : Function.Injective edgeName := by
  intro a b same
  exact (String.append_left_inj "Edge").mp same

theorem connectionName_injective : Function.Injective connectionName := by
  intro a b same
  exact (String.append_left_inj "Connection").mp same

/-- The last characters differ. -/
theorem edgeName_ne_connectionName (a b : String) : edgeName a ≠ connectionName b := by
  intro same
  have last := congrArg (fun s => s.toList.getLast?) same
  simp [edgeName, connectionName] at last

theorem edgeName_ne_pageInfoName (a : String) : edgeName a ≠ pageInfoName := by
  intro same
  have last := congrArg (fun s => s.toList.getLast?) same
  simp [edgeName, pageInfoName] at last

theorem connectionName_ne_pageInfoName (a : String) : connectionName a ≠ pageInfoName := by
  intro same
  have last := congrArg (fun s => s.toList.getLast?) same
  simp [connectionName, pageInfoName] at last

/-- The two generated names of a base type. -/
def pairNames (base : String) : List String := [edgeName base, connectionName base]

theorem mem_pairNames {name base : String} :
    name ∈ pairNames base ↔ name = edgeName base ∨ name = connectionName base := by
  simp [pairNames]

theorem nodup_pairNames (base : String) : (pairNames base).Nodup := by
  simp [pairNames, edgeName_ne_connectionName]

/-- A generated name tells its base type. -/
theorem pairNames_disjoint {a b : String} (different : a ≠ b) :
    (pairNames a).Disjoint (pairNames b) := by
  intro name left right
  rw [mem_pairNames] at left right
  rcases left with rfl | rfl
  · rcases right with same | same
    · exact different (edgeName_injective same)
    · exact edgeName_ne_connectionName a b same
  · rcases right with same | same
    · exact edgeName_ne_connectionName b a same.symm
    · exact different (connectionName_injective same)

theorem pageInfoName_not_mem_pairNames (base : String) : pageInfoName ∉ pairNames base := by
  rw [mem_pairNames]
  rintro (same | same)
  · exact edgeName_ne_pageInfoName base same.symm
  · exact connectionName_ne_pageInfoName base same.symm

theorem Generated.hasDirective_hintDirective_iff (settings : Settings) (hint : Option Int)
    (name : String) :
    hasDirective (hintDirective settings hint) name ↔
      ∃ hints n, settings.cacheHints = some hints ∧ hint = some n ∧ hints.directive = name := by
  cases used : settings.cacheHints with
  | none => simp [hintDirective, used, hasDirective]
  | some hints =>
      cases hint with
      | none => simp [hintDirective, used, hasDirective]
      | some n => simp [hintDirective, used, hasDirective, Directive.ofInt]

namespace Survey

variable (survey : Survey) (settings : Settings)

/-- What is generated where no name collides. -/
def generatedTypes : List TypeDecl :=
  (if survey.hasType pageInfoName then [] else [Generated.pageInfo]) ++
    survey.specs.flatMap (Generated.pair settings)

def generatedNames : List String :=
  (if survey.hasType pageInfoName then [] else [pageInfoName]) ++
    survey.baseTypes.flatMap pairNames

/-- Page information, or an edge or connection of a base type with its hint. -/
theorem mem_generatedTypes {d : TypeDecl} :
    d ∈ survey.generatedTypes settings ↔
      (d = Generated.pageInfo ∧ ¬ survey.hasType pageInfoName) ∨
        ∃ base ∈ survey.baseTypes, ∃ hint,
          hint = Generated.hintDirective settings (survey.hints.get? base) ∧
          (d = Generated.edge base hint ∨ d = Generated.connection base hint) := by
  unfold generatedTypes specs
  rw [List.mem_append, List.flatMap_map, List.mem_flatMap]
  simp only [Generated.pair, List.mem_cons, List.not_mem_nil, or_false, exists_eq_left]
  split <;> simp [*]

theorem map_name_generatedTypes :
    (survey.generatedTypes settings).map (·.name) = survey.generatedNames := by
  unfold generatedTypes generatedNames specs
  rw [List.map_append, List.map_flatMap, List.flatMap_map]
  congr 1
  split <;> rfl

theorem mem_generatedNames {name : String} :
    name ∈ survey.generatedNames ↔
      (name = pageInfoName ∧ ¬ survey.hasType pageInfoName) ∨
        ∃ base ∈ survey.baseTypes, name ∈ pairNames base := by
  unfold generatedNames
  rw [List.mem_append, List.mem_flatMap]
  split <;> simp [*]

theorem edgeName_mem_generatedNames {base : String} (marked : base ∈ survey.baseTypes) :
    edgeName base ∈ survey.generatedNames :=
  (survey.mem_generatedNames).mpr (.inr ⟨base, marked, mem_pairNames.mpr (.inl rfl)⟩)

theorem connectionName_mem_generatedNames {base : String} (marked : base ∈ survey.baseTypes) :
    connectionName base ∈ survey.generatedNames :=
  (survey.mem_generatedNames).mpr (.inr ⟨base, marked, mem_pairNames.mpr (.inr rfl)⟩)

theorem pageInfoName_mem_generatedNames_iff :
    pageInfoName ∈ survey.generatedNames ↔ ¬ survey.hasType pageInfoName := by
  rw [mem_generatedNames]
  constructor
  · rintro (⟨-, absent⟩ | ⟨base, -, pair⟩)
    · exact absent
    · exact absurd pair (pageInfoName_not_mem_pairNames base)
  · exact fun absent => .inl ⟨rfl, absent⟩

/-- Distinct base types have distinct generated names, also where one is named after another. -/
theorem nodup_generatedNames : survey.generatedNames.Nodup := by
  unfold generatedNames
  refine List.Nodup.append ?_ ?_ ?_
  · split <;> simp
  · rw [List.nodup_flatMap]
    exact ⟨fun base _ => nodup_pairNames base,
      survey.nodup_baseTypes.imp fun different => pairNames_disjoint different⟩
  · intro name first pair
    obtain ⟨base, -, member⟩ := List.mem_flatMap.mp pair
    split at first
    · cases first
    · rw [List.mem_singleton.mp first] at member
      exact pageInfoName_not_mem_pairNames base member

/-- No type of the schema has a generated name of a base type. -/
def Free : Prop :=
  ∀ base ∈ survey.baseTypes, ∀ name ∈ pairNames base, survey.declared.get? name = none

theorem collision?_eq_none_iff (base : String) :
    survey.collision? base = none ↔
      ∀ name ∈ pairNames base, survey.declared.get? name = none := by
  unfold collision?
  rw [List.findSome?_eq_none_iff]
  simp only [Option.map_eq_none_iff]
  rfl

theorem generate_of_free (free : survey.Free) :
    survey.generate settings = .ok (survey.generatedTypes settings) := by
  have clear : survey.baseTypes.findSome? survey.collision? = none := by
    rw [List.findSome?_eq_none_iff]
    intro base member
    exact (survey.collision?_eq_none_iff base).mpr (free base member)
  simp only [generate, clear]
  rfl

theorem generate_eq_error_iff (collision : NameCollision) :
    survey.generate settings = .error collision ↔
      survey.baseTypes.findSome? survey.collision? = some collision := by
  unfold generate
  cases survey.baseTypes.findSome? survey.collision? <;> simp

theorem generate_of_not_free (taken : ¬ survey.Free) :
    ∃ collision, survey.generate settings = .error collision := by
  simp only [generate_eq_error_iff]
  rw [← Option.isSome_iff_exists, Option.isSome_iff_ne_none]
  intro none_found
  rw [List.findSome?_eq_none_iff] at none_found
  exact taken fun base member => (survey.collision?_eq_none_iff base).mp (none_found base member)

/-- Generation succeeds exactly where no name collides, and then in one way. -/
theorem generate_eq_ok_iff (types : List TypeDecl) :
    survey.generate settings = .ok types ↔
      survey.Free ∧ types = survey.generatedTypes settings := by
  by_cases free : survey.Free
  · simp only [survey.generate_of_free settings free, Except.ok.injEq, free, true_and]
    exact eq_comm
  · obtain ⟨collision, failed⟩ := survey.generate_of_not_free settings free
    simp [failed, free]

theorem get?_declared_of_mem_generatedNames (free : survey.Free) {name : String}
    (member : name ∈ survey.generatedNames) : survey.declared.get? name = none := by
  rcases (survey.mem_generatedNames).mp member with ⟨rfl, absent⟩ | ⟨base, marked, pair⟩
  · unfold hasType Table.contains at absent
    simpa using absent
  · exact free base marked name pair

/-- The names of generated types all differ, whatever the base types are called, and none of them is
the name of a type that is there: those of the pairs, behind page information if it is new. -/
theorem names_of_generate_eq_ok (survey : Survey) (settings : Settings) {types : List TypeDecl}
    (made : survey.generate settings = .ok types) :
    (types.map (·.name)).Nodup ∧
    (∀ d ∈ types, ¬ survey.hasType d.name) ∧
    types.map (·.name) = (if survey.hasType "PageInfo" then [] else ["PageInfo"]) ++
      survey.baseTypes.flatMap fun base => [base ++ "Edge", base ++ "Connection"] := by
  rw [generate_eq_ok_iff] at made
  obtain ⟨free, rfl⟩ := made
  have names := survey.map_name_generatedTypes settings
  refine ⟨names ▸ survey.nodup_generatedNames, ?_, names⟩
  intro d member
  have listed : d.name ∈ survey.generatedNames := names ▸ List.mem_map_of_mem member
  rw [hasType, Table.contains, survey.get?_declared_of_mem_generatedNames free listed]
  exact Bool.false_ne_true

/-- Base types named after each other, after page information, and after nothing. -/
def chainedBases : Survey where
  declared := .ofFirst [("Query", .generated), ("Post", .generated)]
  redefinitions := []
  marked := .empty
  baseTypes := ["Post", "PostEdge", "PostEdgeConnection", "PageInfo", "", "Edge"]
  nodup_baseTypes := by decide
  hints := .empty

theorem names_of_generate_chainedBases :
    ∃ types, chainedBases.generate .default = .ok types ∧ (types.map (·.name)).Nodup ∧
      (∀ d ∈ types, ¬ chainedBases.hasType d.name) ∧
      types.map (·.name) =
        ["PageInfo", "PostEdge", "PostConnection", "PostEdgeEdge", "PostEdgeConnection",
         "PostEdgeConnectionEdge", "PostEdgeConnectionConnection", "PageInfoEdge",
         "PageInfoConnection", "Edge", "Connection", "EdgeEdge", "EdgeConnection"] := by
  have made : chainedBases.generate .default = .ok (chainedBases.generatedTypes .default) := rfl
  obtain ⟨distinct, fresh, -⟩ := names_of_generate_eq_ok chainedBases .default made
  exact ⟨_, made, distinct, fresh, rfl⟩

end Survey

namespace Document

variable (doc : Document) (settings : Settings)

/-- Whether a type of the document has a generated name of a base type. -/
def Collides (marker : String) : Prop :=
  ∃ base ∈ doc.markedBases marker, ∃ name ∈ pairNames base, name ∈ doc.typeNames

instance (marker : String) : Decidable (doc.Collides marker) := by
  unfold Collides
  infer_instance

theorem free_survey_iff : (doc.survey settings).Free ↔ ¬ doc.Collides settings.marker := by
  unfold Survey.Free Collides
  simp only [mem_baseTypes_iff, get?_declared_eq_none_iff, not_exists, not_and]

/-- The names that are generated for a document. -/
def generatedNames (marker : String) : List String :=
  (if pageInfoName ∈ doc.typeNames then [] else [pageInfoName]) ++
    (doc.markedBases marker).flatMap pairNames

theorem mem_generatedNames_survey {name : String} :
    name ∈ (doc.survey settings).generatedNames ↔ name ∈ doc.generatedNames settings.marker := by
  rw [Survey.mem_generatedNames, generatedNames, List.mem_append, List.mem_flatMap]
  simp only [mem_baseTypes_iff, hasType_iff]
  split <;> simp [*]

/-- Generated names are new to a document without a collision. -/
theorem not_mem_typeNames_of_generated (free : (doc.survey settings).Free) {name : String}
    (member : name ∈ (doc.survey settings).generatedNames) : name ∉ doc.typeNames :=
  (doc.get?_declared_eq_none_iff settings name).mp
    (Survey.get?_declared_of_mem_generatedNames _ free member)

theorem not_mem_definedTypes_of_generated (free : (doc.survey settings).Free) {name : String}
    (member : name ∈ (doc.survey settings).generatedNames) : name ∉ doc.definedTypes := by
  intro defined
  exact doc.not_mem_typeNames_of_generated settings free member
    ((doc.mem_typeNames_iff name).mpr (.inl defined))

end Document

end PagedSchema
