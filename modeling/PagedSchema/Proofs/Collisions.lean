/-
How generation ends: with the first base type of which a generated name is taken, or with all types
in order, each hint on the edge and on two fields of the connection.
-/
import PagedSchema.Proofs.Generation

namespace PagedSchema

def TypeDecl.plainObject (name : String) (directives : List Directive)
    (fields : List (String × TypeRef × List Directive)) : TypeDecl :=
  ⟨.definition none, .nowhere, name, directives,
    .output .object [] (fields.map fun (name, type, ds) => ⟨.nowhere, none, name, [], type, ds⟩)⟩

def Document.FirstAt (doc : Document) (name : String) (location : Location) : Prop :=
  ∃ before t after, doc.types = before ++ t :: after ∧ (∀ u ∈ before, u.decl.name ≠ name) ∧
    t.decl.name = name ∧ t.location = location

theorem Document.get?_declared_eq_some_iff (doc : Document) (settings : Settings) (name : String)
    (location : Location) :
    (doc.survey settings).declared.get? name = some location ↔ doc.FirstAt name location := by
  refine (Table.get?_ofFirst_map_eq_some_iff (·.decl.name) (·.location) doc.types name
    location).trans ?_
  simp only [FirstAt, and_comm, and_assoc]

namespace Survey

variable (survey : Survey) (settings : Settings)

/-- Whether a generated name of a base type is the name of a type. -/
def Taken (base : String) : Prop :=
  survey.hasType (base ++ "Edge") ∨ survey.hasType (base ++ "Connection")

/-- The collision of the first base type with a taken name, on the edge if that is taken. -/
structure FirstCollision (c : NameCollision) : Prop where
  first : ∃ before after, survey.baseTypes = before ++ c.base :: after ∧
    ∀ base ∈ before, ¬ survey.Taken base
  name : c.name = c.base ++ "Edge" ∨
    (c.name = c.base ++ "Connection" ∧ ¬ survey.hasType (c.base ++ "Edge"))
  existing : survey.declared.get? c.name = some c.existing

/-- The directives that carry the hint of a base type: a single one with the names of the settings
if hints are in use and the base type has one, and none otherwise. -/
def HintDirectives (base : String) (ds : List Directive) : Prop :=
  (∃ hints n, settings.cacheHints = some hints ∧ survey.hints.get? base = some n ∧
    ds = [⟨.nowhere, hints.directive, [(hints.argument, .int n)]⟩]) ∨
  ((settings.cacheHints = none ∨ survey.hints.get? base = none) ∧ ds = [])

/-- Page information if there is none, and for each base type an edge and a connection. -/
def typesWith (hint : String → List Directive) : List TypeDecl :=
  (if survey.hasType "PageInfo" then [] else
    [.plainObject "PageInfo" []
      [("hasNextPage", .nonNull (.named "Boolean"), []),
       ("hasPreviousPage", .nonNull (.named "Boolean"), []),
       ("startCursor", .named "String", []),
       ("endCursor", .named "String", [])]]) ++
  survey.baseTypes.flatMap fun base =>
    [.plainObject (base ++ "Edge") (hint base)
      [("cursor", .nonNull (.named "String"), []),
       ("node", .named base, [])],
     .plainObject (base ++ "Connection") []
      [("totalCount", .nonNull (.named "Int"), []),
       ("edges", .list (.named (base ++ "Edge")), hint base),
       ("pageInfo", .nonNull (.named "PageInfo"), hint base)]]

variable {survey settings}

theorem not_hasType_iff {name : String} :
    ¬ survey.hasType name ↔ survey.declared.get? name = none := by
  rw [hasType, Table.contains, Option.not_isSome_iff_eq_none]

theorem not_taken_iff {base : String} :
    ¬ survey.Taken base ↔ ∀ name ∈ pairNames base, survey.declared.get? name = none := by
  rw [Taken, not_or, not_hasType_iff, not_hasType_iff]
  simp only [pairNames, List.forall_mem_cons, List.not_mem_nil, false_imp_iff, implies_true,
    and_true]
  rfl

theorem free_iff_not_taken : survey.Free ↔ ∀ base ∈ survey.baseTypes, ¬ survey.Taken base := by
  simp only [not_taken_iff]
  rfl

theorem collision?_eq_none_iff_not_taken {base : String} :
    survey.collision? base = none ↔ ¬ survey.Taken base := by
  rw [collision?_eq_none_iff, not_taken_iff]

theorem collision?_eq_some_iff {base : String} {c : NameCollision} :
    survey.collision? base = some c ↔
      c.base = base ∧
        (c.name = base ++ "Edge" ∨
          (c.name = base ++ "Connection" ∧ ¬ survey.hasType (base ++ "Edge"))) ∧
        survey.declared.get? c.name = some c.existing := by
  obtain ⟨name, other, existing⟩ := c
  have order : survey.collision? base =
      ((survey.declared.get? (base ++ "Edge")).map fun location =>
        ⟨base ++ "Edge", base, location⟩).or
        ((survey.declared.get? (base ++ "Connection")).map fun location =>
          ⟨base ++ "Connection", base, location⟩) := by
    change List.findSome? _ [base ++ "Edge", base ++ "Connection"] = _
    rw [List.findSome?_cons]
    cases survey.declared.get? (base ++ "Edge") with
    | some location => rfl
    | none =>
        cases connection : survey.declared.get? (base ++ "Connection") <;> simp [connection]
  rw [order, Option.or_eq_some_iff, Option.map_eq_some_iff, Option.map_eq_none_iff,
    Option.map_eq_some_iff, not_hasType_iff]
  simp only [NameCollision.mk.injEq]
  constructor
  · rintro (⟨location, found, rfl, rfl, rfl⟩ | ⟨free, location, found, rfl, rfl, rfl⟩)
    · exact ⟨rfl, .inl rfl, found⟩
    · exact ⟨rfl, .inr ⟨rfl, free⟩, found⟩
  · rintro ⟨rfl, rfl | ⟨rfl, free⟩, found⟩
    · exact .inl ⟨existing, found, rfl, rfl, rfl⟩
    · exact .inr ⟨free, existing, found, rfl, rfl, rfl⟩

theorem generate_eq_error_iff_first {c : NameCollision} :
    survey.generate settings = .error c ↔ survey.FirstCollision c := by
  rw [generate_eq_error_iff, List.findSome?_eq_some_iff]
  simp only [collision?_eq_some_iff, collision?_eq_none_iff_not_taken]
  constructor
  · rintro ⟨before, base, after, listed, ⟨rfl, name, existing⟩, clear⟩
    exact ⟨⟨before, after, listed, clear⟩, name, existing⟩
  · rintro ⟨⟨before, after, listed, clear⟩, name, existing⟩
    exact ⟨before, c.base, after, listed, ⟨rfl, name, existing⟩, clear⟩

theorem hintDirectives_hintDirective (base : String) : survey.HintDirectives settings base
    (Generated.hintDirective settings (survey.hints.get? base)) := by
  unfold HintDirectives Generated.hintDirective
  cases used : settings.cacheHints with
  | none => exact .inr ⟨.inl rfl, rfl⟩
  | some hints =>
      cases known : survey.hints.get? base with
      | none => exact .inr ⟨.inr rfl, rfl⟩
      | some n => exact .inl ⟨hints, n, rfl, rfl, rfl⟩

theorem generatedTypes_eq_typesWith :
    survey.generatedTypes settings =
      survey.typesWith fun base =>
        Generated.hintDirective settings (survey.hints.get? base) := by
  rw [generatedTypes, specs, List.flatMap_map]
  rfl

/-- Generation fails exactly where a base type has a taken name, and then with the first collision,
at the first declaration of the name. Otherwise it gives page information if there is none and the
pair of each base type with its hint. -/
theorem outcome_generate (survey : Survey) (settings : Settings) :
    ((∃ c, survey.generate settings = .error c) ↔
      ∃ base ∈ survey.baseTypes, survey.Taken base) ∧
    (∀ c, survey.generate settings = .error c ↔ survey.FirstCollision c) ∧
    (∃ hint : String → List Directive, (∀ base, survey.HintDirectives settings base (hint base)) ∧
      ∀ types, survey.generate settings = .ok types ↔
        (∀ base ∈ survey.baseTypes, ¬ survey.Taken base) ∧ types = survey.typesWith hint) ∧
    ∀ (doc : Document) (name : String) (location : Location),
      (doc.survey settings).declared.get? name = some location ↔ doc.FirstAt name location := by
  refine ⟨?_, fun _ => generate_eq_error_iff_first, ⟨_, hintDirectives_hintDirective, ?_⟩,
    fun doc => doc.get?_declared_eq_some_iff settings⟩
  · constructor
    · rintro ⟨c, failed⟩
      by_contra clear
      push Not at clear
      rw [survey.generate_of_free settings (free_iff_not_taken.mpr clear)] at failed
      cases failed
    · rintro ⟨base, listed, taken⟩
      apply survey.generate_of_not_free settings
      rw [free_iff_not_taken]
      exact fun free => free base listed taken
  · intro types
    rw [generate_eq_ok_iff, free_iff_not_taken, generatedTypes_eq_typesWith]

end Survey

end PagedSchema
