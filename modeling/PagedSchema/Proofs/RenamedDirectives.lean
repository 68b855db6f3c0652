/-
Documents whose directives have other names, in their declarations and wherever they are applied.
Types, fields and arguments stay as they are, so all that is said about them is said of the
document as it was.
-/
import Mathlib.Logic.Function.Basic
import PagedSchema.Proofs.MappedFields

namespace PagedSchema

section Renaming

variable (ρ : String → String)

def Directive.renameDirectives (d : Directive) : Directive := { d with name := ρ d.name }

def InputValue.renameDirectives (v : InputValue) : InputValue :=
  { v with directives := v.directives.map (·.renameDirectives ρ) }

def Field.renameDirectives (f : Field) : Field :=
  { f with
    arguments := f.arguments.map (·.renameDirectives ρ)
    directives := f.directives.map (·.renameDirectives ρ) }

def EnumValue.renameDirectives (v : EnumValue) : EnumValue :=
  { v with directives := v.directives.map (·.renameDirectives ρ) }

def TypeBody.renameDirectives : TypeBody → TypeBody
  | scalar => .scalar
  | output kind interfaces fields =>
    .output kind interfaces (fields.map (·.renameDirectives ρ))
  | union members => .union members
  | enum values => .enum (values.map (·.renameDirectives ρ))
  | input fields => .input (fields.map (·.renameDirectives ρ))

def TypeDecl.renameDirectives (d : TypeDecl) : TypeDecl :=
  { d with
    directives := d.directives.map (·.renameDirectives ρ)
    body := d.body.renameDirectives ρ }

def DirectiveDecl.renameDirectives (d : DirectiveDecl) : DirectiveDecl :=
  { d with name := ρ d.name, arguments := d.arguments.map (·.renameDirectives ρ) }

def SchemaDecl.renameDirectives (d : SchemaDecl) : SchemaDecl :=
  { d with directives := d.directives.map (·.renameDirectives ρ) }

def Definition.renameDirectives : Definition → Definition
  | schema d => .schema (d.renameDirectives ρ)
  | directive d => .directive (d.renameDirectives ρ)
  | type d => .type (d.renameDirectives ρ)

def Sourced.renameDirectives (s : Sourced) : Sourced :=
  { s with definition := s.definition.renameDirectives ρ }

def Document.renameDirectives (doc : Document) : Document := doc.map (·.renameDirectives ρ)

end Renaming

/-- The names of the directives that are applied to an argument or input field. -/
def InputValue.appliedDirectives (v : InputValue) : List String := v.directives.map (·.name)

def Field.appliedDirectives (f : Field) : List String :=
  f.arguments.flatMap (·.appliedDirectives) ++ f.directives.map (·.name)

def EnumValue.appliedDirectives (v : EnumValue) : List String := v.directives.map (·.name)

def TypeBody.appliedDirectives : TypeBody → List String
  | scalar => []
  | output _ _ fields => fields.flatMap (·.appliedDirectives)
  | union _ => []
  | enum values => values.flatMap (·.appliedDirectives)
  | input fields => fields.flatMap (·.appliedDirectives)

/-- The names of the directives that are applied anywhere in a definition. -/
def Definition.appliedDirectives : Definition → List String
  | schema d => d.directives.map (·.name)
  | directive d => d.arguments.flatMap (·.appliedDirectives)
  | type d => d.directives.map (·.name) ++ d.body.appliedDirectives

def Document.appliedDirectives (doc : Document) : List String :=
  doc.definitions.flatMap (·.appliedDirectives)

section Projections

variable (ρ : String → String)

theorem InputValue.map_name_renameDirectives (values : List InputValue) :
    (values.map (·.renameDirectives ρ)).map (·.name) = values.map (·.name) := by
  rw [List.map_map]
  rfl

theorem InputValue.map_base_renameDirectives (values : List InputValue) :
    (values.map (·.renameDirectives ρ)).map (·.type.base) = values.map (·.type.base) := by
  rw [List.map_map]
  rfl

theorem Field.references_renameDirectives (f : Field) :
    (f.renameDirectives ρ).references = f.references := by
  rw [references, renameDirectives, InputValue.map_base_renameDirectives]
  rfl

theorem TypeDecl.outputFields_renameDirectives (d : TypeDecl) :
    (d.renameDirectives ρ).outputFields = d.outputFields.map (·.renameDirectives ρ) := by
  obtain ⟨role, position, name, directives, body⟩ := d
  cases body <;> rfl

namespace Definition

theorem definedType?_renameDirectives (d : Definition) :
    (d.renameDirectives ρ).definedType? = d.definedType? := by
  cases d <;> rfl

theorem extendedType?_renameDirectives (d : Definition) :
    (d.renameDirectives ρ).extendedType? = d.extendedType? := by
  cases d <;> rfl

theorem typeName?_renameDirectives (d : Definition) :
    (d.renameDirectives ρ).typeName? = d.typeName? := by
  cases d <;> rfl

theorem directiveName?_renameDirectives (d : Definition) :
    (d.renameDirectives ρ).directiveName? = d.directiveName?.map ρ := by
  cases d <;> rfl

theorem references_renameDirectives (d : Definition) :
    (d.renameDirectives ρ).references = d.references := by
  cases d with
  | schema d => rfl
  | directive d => exact InputValue.map_base_renameDirectives ρ d.arguments
  | type d =>
      obtain ⟨role, position, name, directives, body⟩ := d
      cases body with
      | output kind interfaces fields =>
          simp only [renameDirectives, TypeDecl.renameDirectives, TypeBody.renameDirectives,
            references, TypeBody.references, List.flatMap_map, Field.references_renameDirectives]
      | input fields => exact InputValue.map_base_renameDirectives ρ fields
      | scalar | union | enum => rfl

theorem coordinates_renameDirectives (d : Definition) :
    (d.renameDirectives ρ).coordinates = d.coordinates := by
  cases d with
  | schema d => rfl
  | directive d => rfl
  | type d =>
      obtain ⟨role, position, name, directives, body⟩ := d
      cases body with
      | output kind interfaces fields =>
          simp only [renameDirectives, TypeDecl.renameDirectives, TypeBody.renameDirectives,
            coordinates, TypeBody.fieldNames, List.map_map]
          rfl
      | input fields =>
          simp only [renameDirectives, TypeDecl.renameDirectives, TypeBody.renameDirectives,
            coordinates, TypeBody.fieldNames, InputValue.map_name_renameDirectives]
      | scalar | union | enum => rfl

end Definition

namespace Document

variable (doc : Document)

theorem definitions_renameDirectives :
    (doc.renameDirectives ρ).definitions = doc.definitions.map (·.renameDirectives ρ) := by
  unfold renameDirectives definitions
  rw [List.map_map, List.map_map]
  rfl

theorem definedTypes_renameDirectives :
    (doc.renameDirectives ρ).definedTypes = doc.definedTypes := by
  simp only [definedTypes, definitions_renameDirectives, List.filterMap_map, Function.comp_def,
    Definition.definedType?_renameDirectives]

theorem extendedTypes_renameDirectives :
    (doc.renameDirectives ρ).extendedTypes = doc.extendedTypes := by
  simp only [extendedTypes, definitions_renameDirectives, List.filterMap_map, Function.comp_def,
    Definition.extendedType?_renameDirectives]

theorem typeNames_renameDirectives : (doc.renameDirectives ρ).typeNames = doc.typeNames := by
  simp only [typeNames, definitions_renameDirectives, List.filterMap_map, Function.comp_def,
    Definition.typeName?_renameDirectives]

theorem directiveNames_renameDirectives :
    (doc.renameDirectives ρ).directiveNames = doc.directiveNames.map ρ := by
  simp only [directiveNames, definitions_renameDirectives, List.filterMap_map, Function.comp_def,
    Definition.directiveName?_renameDirectives, List.map_filterMap]

theorem references_renameDirectives : (doc.renameDirectives ρ).references = doc.references := by
  simp only [references, definitions_renameDirectives, List.flatMap_map,
    Definition.references_renameDirectives]

theorem coordinates_renameDirectives :
    (doc.renameDirectives ρ).coordinates = doc.coordinates := by
  simp only [coordinates, definitions_renameDirectives, List.flatMap_map,
    Definition.coordinates_renameDirectives]

theorem types_renameDirectives :
    (doc.renameDirectives ρ).types =
      doc.types.map fun t => ⟨t.origin, t.decl.renameDirectives ρ⟩ := by
  unfold types renameDirectives
  rw [List.filterMap_map, List.map_filterMap]
  congr 1
  funext s
  obtain ⟨origin, definition⟩ := s
  cases definition <;> rfl

theorem typeDefinitions_renameDirectives :
    (doc.renameDirectives ρ).typeDefinitions =
      doc.typeDefinitions.map fun t => ⟨t.origin, t.decl.renameDirectives ρ⟩ := by
  unfold typeDefinitions
  rw [types_renameDirectives, List.filter_map]
  rfl

theorem outputFields_renameDirectives :
    (doc.renameDirectives ρ).outputFields =
      doc.outputFields.map fun entry => (entry.1, entry.2.renameDirectives ρ) := by
  unfold outputFields
  simp only [types_renameDirectives, List.flatMap_map, List.map_flatMap,
    TypeDecl.outputFields_renameDirectives, List.map_map]
  rfl

theorem mapFields_renameDirectives {g k : String → Field → Field}
    (each : ∀ type f, k type (f.renameDirectives ρ) = (g type f).renameDirectives ρ) :
    (doc.renameDirectives ρ).mapFields k = (doc.mapFields g).renameDirectives ρ := by
  unfold mapFields renameDirectives
  rw [List.map_map, List.map_map]
  apply List.map_congr_left
  rintro ⟨origin, definition⟩ -
  cases definition with
  | schema d => rfl
  | directive d => rfl
  | type d =>
      obtain ⟨role, position, name, directives, body⟩ := d
      cases body with
      | output kind interfaces fields =>
          simp only [Function.comp_apply, Sourced.mapFields, Sourced.renameDirectives,
            Definition.mapFields, Definition.renameDirectives, TypeDecl.mapFields,
            TypeDecl.renameDirectives, TypeBody.mapFields, TypeBody.renameDirectives,
            List.map_map, Function.comp_def, each]
      | scalar | enum | union | input => rfl

/-- A document under other directive names is well formed as the document is. -/
theorem wellFormedWith_renameDirectives_iff (injective : Function.Injective ρ)
    (given : List String) :
    (doc.renameDirectives ρ).WellFormedWith given ↔ doc.WellFormedWith given := by
  have directivesOnce : (doc.renameDirectives ρ).directiveNames.Nodup ↔
      doc.directiveNames.Nodup := by
    rw [directiveNames_renameDirectives]
    exact List.nodup_map_iff injective
  have argumentsOnce : (∀ entry ∈ (doc.renameDirectives ρ).outputFields,
        (entry.2.arguments.map (·.name)).Nodup) ↔
      ∀ entry ∈ doc.outputFields, (entry.2.arguments.map (·.name)).Nodup := by
    rw [outputFields_renameDirectives, List.forall_mem_map]
    simp only [Field.renameDirectives, InputValue.map_name_renameDirectives]
  have defined := List.Perm.of_eq (doc.definedTypes_renameDirectives ρ)
  have fields := List.Perm.of_eq (doc.coordinates_renameDirectives ρ)
  have extended := List.Perm.of_eq (doc.extendedTypes_renameDirectives ρ)
  have referred := List.Perm.of_eq (doc.references_renameDirectives ρ)
  constructor
  · intro wellFormed
    exact wellFormed.transfer defined directivesOnce.mp fields
      (argumentsOnce.mp wellFormed.argumentsOnce) extended.symm.subset referred.symm.subset
      (List.Subset.refl _)
  · intro wellFormed
    exact wellFormed.transfer defined.symm directivesOnce.mpr fields.symm
      (argumentsOnce.mpr wellFormed.argumentsOnce) extended.subset referred.subset
      (List.Subset.refl _)

end Document

end Projections

namespace Document

theorem appliedDirectives_append (xs ys : Document) :
    appliedDirectives (xs ++ ys) = appliedDirectives xs ++ appliedDirectives ys := by
  simp only [appliedDirectives, definitions, List.map_append, List.flatMap_append]

/-- Fields that have no more directives than before leave the document with no more of them. -/
theorem appliedDirectives_mapFields {g : String → Field → Field} (doc : Document)
    (fewer : ∀ type f, (g type f).appliedDirectives ⊆ f.appliedDirectives) :
    (doc.mapFields g).appliedDirectives ⊆ doc.appliedDirectives := by
  unfold appliedDirectives
  rw [definitions_mapFields, List.flatMap_map]
  intro name applied
  obtain ⟨d, present, uses⟩ := List.mem_flatMap.mp applied
  refine List.mem_flatMap.mpr ⟨d, present, ?_⟩
  cases d with
  | schema d => exact uses
  | directive d => exact uses
  | type d =>
      obtain ⟨role, position, type, directives, body⟩ := d
      cases body with
      | output kind interfaces fields =>
          refine List.mem_append.mpr ((List.mem_append.mp uses).imp_right fun inFields => ?_)
          obtain ⟨g', mapped, uses⟩ := List.mem_flatMap.mp inFields
          obtain ⟨f, member, rfl⟩ := List.mem_map.mp mapped
          exact List.mem_flatMap.mpr ⟨f, member, fewer type f uses⟩
      | scalar | enum | union | input => exact uses

end Document

section Congruence

variable {ρ σ : String → String}

theorem Directive.map_renameDirectives_congr {ds : List Directive}
    (same : ∀ n ∈ ds.map (·.name), ρ n = σ n) :
    ds.map (·.renameDirectives ρ) = ds.map (·.renameDirectives σ) := by
  apply List.map_congr_left
  intro d member
  rw [renameDirectives, renameDirectives, same d.name (List.mem_map_of_mem member)]

theorem InputValue.map_renameDirectives_congr {values : List InputValue}
    (same : ∀ n ∈ values.flatMap (·.appliedDirectives), ρ n = σ n) :
    values.map (·.renameDirectives ρ) = values.map (·.renameDirectives σ) := by
  apply List.map_congr_left
  intro v member
  have own : ∀ n ∈ v.directives.map (·.name), ρ n = σ n := fun n applied =>
    same n (List.mem_flatMap.mpr ⟨v, member, applied⟩)
  rw [renameDirectives, renameDirectives, Directive.map_renameDirectives_congr own]

theorem Field.renameDirectives_congr {f : Field}
    (same : ∀ n ∈ f.appliedDirectives, ρ n = σ n) :
    f.renameDirectives ρ = f.renameDirectives σ := by
  obtain ⟨arguments, directives⟩ := List.forall_mem_append.mp same
  rw [renameDirectives, renameDirectives, InputValue.map_renameDirectives_congr arguments,
    Directive.map_renameDirectives_congr directives]

theorem TypeBody.renameDirectives_congr {body : TypeBody}
    (same : ∀ n ∈ body.appliedDirectives, ρ n = σ n) :
    body.renameDirectives ρ = body.renameDirectives σ := by
  cases body with
  | scalar => rfl
  | union members => rfl
  | output kind interfaces fields =>
      apply congrArg (TypeBody.output kind interfaces)
      apply List.map_congr_left
      intro f member
      exact Field.renameDirectives_congr fun n applied =>
        same n (List.mem_flatMap.mpr ⟨f, member, applied⟩)
  | enum values =>
      apply congrArg TypeBody.enum
      apply List.map_congr_left
      intro v member
      have own : ∀ n ∈ v.directives.map (·.name), ρ n = σ n := fun n applied =>
        same n (List.mem_flatMap.mpr ⟨v, member, applied⟩)
      rw [EnumValue.renameDirectives, EnumValue.renameDirectives,
        Directive.map_renameDirectives_congr own]
  | input fields => exact congrArg TypeBody.input (InputValue.map_renameDirectives_congr same)

theorem Definition.renameDirectives_congr {d : Definition}
    (declared : ∀ n, d.directiveName? = some n → ρ n = σ n)
    (applied : ∀ n ∈ d.appliedDirectives, ρ n = σ n) :
    d.renameDirectives ρ = d.renameDirectives σ := by
  cases d with
  | schema d =>
      apply congrArg Definition.schema
      rw [SchemaDecl.renameDirectives, SchemaDecl.renameDirectives,
        Directive.map_renameDirectives_congr applied]
  | directive d =>
      apply congrArg Definition.directive
      rw [DirectiveDecl.renameDirectives, DirectiveDecl.renameDirectives, declared d.name rfl,
        InputValue.map_renameDirectives_congr applied]
  | type d =>
      obtain ⟨directives, body⟩ := List.forall_mem_append.mp applied
      apply congrArg Definition.type
      rw [TypeDecl.renameDirectives, TypeDecl.renameDirectives,
        Directive.map_renameDirectives_congr directives, TypeBody.renameDirectives_congr body]

/-- Only the names that a document declares and applies matter to it. -/
theorem Document.renameDirectives_congr {doc : Document}
    (declared : ∀ n ∈ doc.directiveNames, ρ n = σ n)
    (applied : ∀ n ∈ doc.appliedDirectives, ρ n = σ n) :
    doc.renameDirectives ρ = doc.renameDirectives σ := by
  apply List.map_congr_left
  intro s member
  have present : s.definition ∈ doc.definitions := List.mem_map_of_mem member
  have same : s.definition.renameDirectives ρ = s.definition.renameDirectives σ :=
    Definition.renameDirectives_congr
      (fun n defines => declared n (List.mem_filterMap.mpr ⟨s.definition, present, defines⟩))
      (fun n uses => applied n (List.mem_flatMap.mpr ⟨s.definition, present, uses⟩))
  rw [Sourced.renameDirectives, Sourced.renameDirectives, same]

end Congruence

end PagedSchema
