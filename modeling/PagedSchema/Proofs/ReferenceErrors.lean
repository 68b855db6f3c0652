/-
Errors about types that are used or extended and not defined. Each definition of a document reports
its own errors after those of the definitions before it: an extension of an undefined type first,
and then one error for each use of an undefined type, in the order of the uses.
-/
import PagedSchema.Proofs.Agreement

namespace PagedSchema

/-- The type is this name in any number of wrappers. -/
inductive TypeRef.Wraps : TypeRef → String → Prop
  | named (name : String) : Wraps (.named name) name
  | list {inner : TypeRef} {name : String} (wraps : Wraps inner name) : Wraps (.list inner) name
  | nonNull {inner : TypeRef} {name : String} (wraps : Wraps inner name) :
    Wraps (.nonNull inner) name

theorem TypeRef.wraps_iff {type : TypeRef} {name : String} :
    type.Wraps name ↔ type.base = name := by
  constructor
  · intro wraps
    induction wraps with
    | named name => rfl
    | list _ ih => exact ih
    | nonNull _ ih => exact ih
  · rintro rfl
    induction type with
    | named name => exact .named name
    | list inner ih => exact .list ih
    | nonNull inner ih => exact .nonNull ih

/-- A place where the name of a type is used: the name, what uses it, and where. -/
structure TypeUse where
  name : String
  user : String
  location : Location

namespace TypeUse

def error (use : TypeUse) : SchemaError := .undefinedType use.name use.user use.location

def ofInput (origin : Origin) (owner : String) (v : InputValue) : TypeUse :=
  ⟨v.type.base, s!"{owner}({v.name}:)", origin.locate v.position⟩

/-- A field uses its own type and then those of its arguments. -/
def ofField (origin : Origin) (type : String) (f : Field) : List TypeUse :=
  ⟨f.type.base, s!"{type}.{f.name}", origin.locate f.position⟩ ::
    f.arguments.map (ofInput origin s!"{type}.{f.name}")

/-- Interfaces stand before fields. -/
def ofBody (origin : Origin) (type : String) (location : Location) : TypeBody → List TypeUse
  | .scalar => []
  | .enum _ => []
  | .output _ interfaces fields =>
    interfaces.map (⟨·, type, location⟩) ++ fields.flatMap (ofField origin type)
  | .union members => members.map (⟨·, type, location⟩)
  | .input fields => fields.map (ofInput origin type)

def ofDefinition (s : Sourced) : List TypeUse :=
  match s.definition with
  | .schema d =>
    d.query.toList.map (⟨·, "schema.query", s.location⟩) ++
      d.mutation.toList.map (⟨·, "schema.mutation", s.location⟩) ++
      d.subscription.toList.map (⟨·, "schema.subscription", s.location⟩)
  | .directive d => d.arguments.map (ofInput s.origin s!"@{d.name}")
  | .type d => ofBody s.origin d.name s.location d.body

end TypeUse

def SchemaError.isReference : SchemaError → Bool
  | undefinedExtended .. => true
  | undefinedType .. => true
  | _ => false

namespace Document

/-- Some definition of the document, wherever it stands, defines a type of this name. -/
def Defines (doc : Document) (name : String) : Prop :=
  ∃ s ∈ doc, ∃ d, s.definition = .type d ∧ d.role ≠ .extension ∧ d.name = name

theorem defines_iff (doc : Document) (name : String) :
    doc.Defines name ↔ name ∈ doc.definedTypes := by
  rw [Defines, definedTypes, definitions, List.filterMap_map, List.mem_filterMap]
  apply exists_congr
  rintro ⟨origin, definition⟩
  apply and_congr_right
  intro _
  cases definition with
  | schema d => simp [Definition.definedType?]
  | directive d => simp [Definition.definedType?]
  | type d =>
      obtain ⟨role, position, name, directives, body⟩ := d
      cases role <;> simp [Definition.definedType?, TypeDecl.isExtension, Role.isExtension]

instance (doc : Document) (name : String) : Decidable (doc.Defines name) :=
  decidable_of_iff _ (doc.defines_iff name).symm

def Undefined (doc : Document) (name : String) : Prop :=
  name ∉ ["Boolean", "Float", "ID", "Int", "String"] ∧ ¬ doc.Defines name

instance (doc : Document) (name : String) : Decidable (doc.Undefined name) :=
  inferInstanceAs (Decidable (_ ∧ _))

def extensionErrors (doc : Document) (s : Sourced) : List SchemaError :=
  match s.definition with
  | .type d =>
    if d.role = .extension ∧ ¬ doc.Defines d.name then [.undefinedExtended d.name s.location]
    else []
  | _ => []

def useErrors (doc : Document) (s : Sourced) : List SchemaError :=
  ((TypeUse.ofDefinition s).filter (doc.Undefined ·.name)).map (·.error)

/-- What a walk over the definitions of the document reports in `s` after it passed `before`. -/
def errorsIn (doc before : Document) (s : Sourced) : List SchemaError :=
  failedChecks doc.definedTypes (Check.recordAll .empty before.checks) (Check.ofDefinition s)

end Document

namespace Check

def use? : Check → Option TypeUse
  | refers name user location => some ⟨name, user, location⟩
  | _ => none

variable {origin : Origin}

theorem uses_ofInputs (owner : String) (values : List InputValue) :
    (ofInputs origin owner values).filterMap use? = values.map (TypeUse.ofInput origin owner) := by
  rw [ofInputs, List.filterMap_map]
  exact congrFun List.filterMap_eq_map values

theorem uses_repeatedArguments (field : Coordinate) (arguments : List InputValue) :
    (repeatedArguments origin field arguments).filterMap use? = [] := by
  simp [repeatedArguments, use?]

theorem uses_ofField (type : String) (f : Field) :
    (ofField origin type f).filterMap use? = TypeUse.ofField origin type f := by
  simp only [ofField, List.filterMap_append, uses_repeatedArguments, uses_ofInputs,
    List.append_nil]
  rfl

theorem uses_refers (names : List String) (user : String) (location : Location) :
    (names.map (refers · user location)).filterMap use? = names.map (⟨·, user, location⟩) := by
  rw [List.filterMap_map]
  exact congrFun List.filterMap_eq_map names

theorem uses_ofTypeBody (type : String) (location : Location) (body : TypeBody) :
    (ofTypeBody origin type location body).filterMap use? =
      TypeUse.ofBody origin type location body := by
  cases body with
  | scalar => rfl
  | enum values => rfl
  | union members => exact uses_refers members type location
  | input fields =>
      have declared : (fields.map fun f =>
          declares ⟨type, f.name⟩ (origin.locate f.position)).filterMap use? = [] := by
        simp [use?]
      rw [ofTypeBody, List.filterMap_append, declared, uses_ofInputs, List.nil_append]
      rfl
  | output kind interfaces fields =>
      simp only [ofTypeBody, List.filterMap_append, uses_refers, List.filterMap_flatMap,
        uses_ofField, TypeUse.ofBody]

theorem uses_ofSchema (d : SchemaDecl) :
    (ofSchema d (origin.locate d.position)).filterMap use? =
      TypeUse.ofDefinition ⟨origin, .schema d⟩ := by
  obtain ⟨position, directives, query, mutation, subscription⟩ := d
  cases query <;> cases mutation <;> cases subscription <;> rfl

end Check

open Check

namespace Document

variable (doc : Document)

theorem failure?_refers_eq (seen : Table Coordinate Location) (use : TypeUse) :
    failure? doc.definedTypes seen (.refers use.name use.user use.location) =
      if doc.Undefined use.name then some use.error else none := by
  have resolved : (isBuiltinScalar use.name || doc.definedTypes.contains use.name) = true ↔
      ¬ doc.Undefined use.name := by
    simp only [isBuiltinScalar, Bool.or_eq_true, List.contains_iff_mem, Undefined, defines_iff,
      builtinScalars]
    tauto
  by_cases missing : doc.Undefined use.name
  · rw [failure?, if_neg (fun known => resolved.mp known missing), if_pos missing]
    rfl
  · rw [failure?, if_pos (resolved.mpr missing), if_neg missing]

/-- A walk that meets no extension reports undefined types exactly where undefined types are used,
whatever else it reports in between. -/
theorem filter_isReference_failedChecks (seen : Table Coordinate Location) {checks : List Check}
    (none_extended : ∀ type location, .extends type location ∉ checks) :
    (failedChecks doc.definedTypes seen checks).filter (·.isReference) =
      ((checks.filterMap use?).filter (doc.Undefined ·.name)).map (·.error) := by
  induction checks generalizing seen with
  | nil => rfl
  | cons c rest ih =>
      have later : ∀ type location, .extends type location ∉ rest :=
        fun type location member => none_extended type location (List.mem_cons_of_mem c member)
      rw [failedChecks_cons, List.filter_append, ih _ later]
      cases c with
      | declares field location =>
          cases known : seen.get? field <;>
            simp [failure?, known, use?, SchemaError.isReference, List.filterMap_cons]
      | repeatsArgument field argument location =>
          simp [failure?, use?, SchemaError.isReference, List.filterMap_cons]
      | «extends» type location =>
          exact absurd List.mem_cons_self (none_extended type location)
      | refers name user location =>
          rw [failure?_refers_eq doc seen ⟨name, user, location⟩]
          by_cases missing : doc.Undefined name <;>
            simp [use?, missing, TypeUse.error, SchemaError.isReference]

/-- In front of its other errors an extension reports that its type is not defined, if so. -/
theorem errorsIn_eq (before : Document) (s : Sourced) :
    ∃ inside, doc.errorsIn before s = doc.extensionErrors s ++ inside ∧
      inside.filter (·.isReference) = doc.useErrors s := by
  rw [useErrors]
  obtain ⟨origin, definition⟩ := s
  cases definition with
  | schema d =>
      refine ⟨failedChecks doc.definedTypes (recordAll .empty before.checks)
        (ofSchema d (origin.locate d.position)), rfl, ?_⟩
      rw [filter_isReference_failedChecks, uses_ofSchema]
      intro type location member
      cases typeName?_of_extends_mem (s := ⟨origin, .schema d⟩) member
  | directive d =>
      refine ⟨failedChecks doc.definedTypes (recordAll .empty before.checks)
        (ofInputs origin s!"@{d.name}" d.arguments), rfl, ?_⟩
      rw [filter_isReference_failedChecks, uses_ofInputs]
      · rfl
      · intro type location member
        cases typeName?_of_extends_mem (s := ⟨origin, .directive d⟩) member
  | type d =>
      refine ⟨failedChecks doc.definedTypes (recordAll .empty before.checks)
        (ofTypeBody origin d.name (origin.locate d.position) d.body), ?_, ?_⟩
      · have extension : d.isExtension = true ↔ d.role = .extension := by
          rw [TypeDecl.isExtension]
          cases d.role <;> simp [Role.isExtension]
        have known := (doc.defines_iff d.name).symm
        change failedChecks _ _ (ofType ⟨origin, d⟩) = _
        by_cases extended : d.role = .extension
        · rw [ofType, if_pos (extension.mpr extended), failedChecks_append,
            failedChecks_singleton]
          congr 1
          by_cases defined : doc.Defines d.name
          · simp [failure?, extensionErrors, known, defined]
          · simp [failure?, extensionErrors, known, defined, extended]
            rfl
        · rw [ofType, if_neg (mt extension.mp extended), List.nil_append]
          simp only [extensionErrors, extended, false_and, if_false, List.nil_append]
          rfl
      · rw [filter_isReference_failedChecks _ _ fun _ _ => extends_not_mem_ofTypeBody d.body,
          uses_ofTypeBody]
        rfl

/-- A walk reports what each definition does after those before it. -/
theorem failedChecks_checks (before rest : Document) :
    failedChecks doc.definedTypes (recordAll .empty before.checks) (checks rest) =
      rest.zipIdx.flatMap fun (s, i) => doc.errorsIn (before ++ rest.take i) s := by
  induction rest generalizing before with
  | nil => rfl
  | cons s rest ih =>
      have passed : recordAll (recordAll .empty before.checks) (ofDefinition s) =
          recordAll .empty (checks (before ++ [s])) := by
        rw [checks_append, recordAll, recordAll, recordAll, List.foldl_append]
        simp [checks]
      have shift : ∀ i, before ++ (s :: rest).take (i + 1) =
          (before ++ [s]) ++ rest.take i := by simp
      change failedChecks _ _ (ofDefinition s ++ checks rest) = _
      rw [failedChecks_append, passed, ih]
      simp only [List.zipIdx_cons, Nat.zero_add, List.zipIdx_succ (l := rest) (i := 0),
        List.flatMap_cons, List.flatMap_map, List.take_zero, List.append_nil, shift]
      rfl

theorem not_isReference_of_mem_duplicateDefinitions {e : SchemaError}
    (member : e ∈ doc.duplicateDefinitions) : e.isReference = false := by
  obtain ⟨⟨name, first, second⟩, -, rfl⟩ := List.mem_map.mp member
  cases name <;> rfl

/-- The errors about undefined types are those of each definition in turn: that it extends one, and
then those of its uses. Among all errors they stand with the others of their definition, that of the
extension in front. A type is used under the name inside its wrappers. -/
theorem filter_isReference_errors (doc : Document) :
    doc.errors.filter (·.isReference) =
      doc.flatMap (fun s => doc.extensionErrors s ++ doc.useErrors s) ∧
    doc.errors = doc.duplicateDefinitions ++
      doc.zipIdx.flatMap (fun (s, i) => doc.errorsIn (doc.take i) s) ∧
    (∀ before s, ∃ inside, doc.errorsIn before s = doc.extensionErrors s ++ inside ∧
      inside.filter (·.isReference) = doc.useErrors s) ∧
    ∀ type name, TypeRef.Wraps type name ↔ type.base = name := by
  have whole : doc.errors = doc.duplicateDefinitions ++
      doc.zipIdx.flatMap fun (s, i) => doc.errorsIn (doc.take i) s := by
    rw [errors, typeDefinitions_map_name]
    exact congrArg _ (doc.failedChecks_checks [] doc)
  have each : ∀ before s, (doc.errorsIn before s).filter (·.isReference) =
      doc.extensionErrors s ++ doc.useErrors s := by
    intro before s
    obtain ⟨inside, split, uses⟩ := doc.errorsIn_eq before s
    rw [split, List.filter_append, uses]
    congr 1
    rw [List.filter_eq_self]
    intro e member
    rw [extensionErrors] at member
    split at member
    · split at member
      · cases List.mem_singleton.mp member
        rfl
      · cases member
    · cases member
  refine ⟨?_, whole, doc.errorsIn_eq, fun _ _ => TypeRef.wraps_iff⟩
  have duplicates : doc.duplicateDefinitions.filter (·.isReference) = [] := by
    rw [List.filter_eq_nil_iff]
    intro e member
    simp [doc.not_isReference_of_mem_duplicateDefinitions member]
  have flat : doc.flatMap (fun s => doc.extensionErrors s ++ doc.useErrors s) =
      doc.zipIdx.flatMap fun entry => doc.extensionErrors entry.1 ++ doc.useErrors entry.1 := by
    rw [← List.flatMap_map Prod.fst (fun s => doc.extensionErrors s ++ doc.useErrors s),
      List.zipIdx_map_fst]
  rw [whole, List.filter_append, duplicates, List.nil_append, List.filter_flatMap, flat]
  simp only [each]

end Document

end PagedSchema
