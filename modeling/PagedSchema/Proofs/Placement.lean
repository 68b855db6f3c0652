/-
Definitions without their positions. Apart from the places of errors nothing that a definition says
depends on positions, nor does its text.
-/
import PagedSchema.Proofs.WellFormed
import PagedSchema.Sdl.Printer

namespace PagedSchema

def Directive.unplaced (d : Directive) : Directive := { d with position := .nowhere }

def InputValue.unplaced (v : InputValue) : InputValue :=
  { v with position := .nowhere, directives := v.directives.map (·.unplaced) }

def Field.unplaced (f : Field) : Field :=
  { f with
    position := .nowhere
    arguments := f.arguments.map (·.unplaced)
    directives := f.directives.map (·.unplaced) }

def EnumValue.unplaced (v : EnumValue) : EnumValue :=
  { v with position := .nowhere, directives := v.directives.map (·.unplaced) }

def TypeBody.unplaced : TypeBody → TypeBody
  | scalar => .scalar
  | output kind interfaces fields => .output kind interfaces (fields.map (·.unplaced))
  | union members => .union members
  | enum values => .enum (values.map (·.unplaced))
  | input fields => .input (fields.map (·.unplaced))

def TypeDecl.unplaced (d : TypeDecl) : TypeDecl :=
  { d with
    position := .nowhere
    directives := d.directives.map (·.unplaced)
    body := d.body.unplaced }

def DirectiveDecl.unplaced (d : DirectiveDecl) : DirectiveDecl :=
  { d with position := .nowhere, arguments := d.arguments.map (·.unplaced) }

def SchemaDecl.unplaced (d : SchemaDecl) : SchemaDecl :=
  { d with position := .nowhere, directives := d.directives.map (·.unplaced) }

def Definition.unplaced : Definition → Definition
  | schema d => .schema d.unplaced
  | directive d => .directive d.unplaced
  | type d => .type d.unplaced

namespace Sdl

theorem printDirectives_unplaced (indent : Nat) (ds : List Directive) :
    printDirectives indent (ds.map (·.unplaced)) = printDirectives indent ds := by
  unfold printDirectives
  rw [List.map_map]
  rfl

theorem printInputValue_unplaced (indent : Nat) (v : InputValue) :
    printInputValue indent v.unplaced = printInputValue indent v := by
  unfold printInputValue
  rw [InputValue.unplaced, printDirectives_unplaced]

theorem printArguments_unplaced (indent : Nat) (arguments : List InputValue) :
    printArguments indent (arguments.map (·.unplaced)) = printArguments indent arguments := by
  unfold printArguments
  simp only [List.map_map, Function.comp_def, printInputValue_unplaced]

theorem printField_unplaced (f : Field) : printField f.unplaced = printField f := by
  unfold printField
  rw [Field.unplaced, printArguments_unplaced, printDirectives_unplaced]

theorem printEnumValue_unplaced (v : EnumValue) :
    printEnumValue v.unplaced = printEnumValue v := by
  unfold printEnumValue
  rw [EnumValue.unplaced, printDirectives_unplaced]

theorem printInputField_unplaced (v : InputValue) :
    printInputField v.unplaced = printInputField v := by
  unfold printInputField
  rw [printInputValue_unplaced]

theorem printTypeBody_unplaced (directives : String) (body : TypeBody) :
    printTypeBody directives body.unplaced = printTypeBody directives body := by
  cases body with
  | scalar => rfl
  | union members => rfl
  | output kind interfaces fields =>
      simp only [TypeBody.unplaced, printTypeBody, List.map_map, Function.comp_def,
        printField_unplaced]
  | enum values =>
      simp only [TypeBody.unplaced, printTypeBody, List.map_map, Function.comp_def,
        printEnumValue_unplaced]
  | input fields =>
      simp only [TypeBody.unplaced, printTypeBody, List.map_map, Function.comp_def,
        printInputField_unplaced]

theorem typeKeyword_unplaced (body : TypeBody) : typeKeyword body.unplaced = typeKeyword body := by
  cases body with
  | output kind interfaces fields => cases kind <;> rfl
  | scalar | union | enum | input => rfl

theorem printDefinition_unplaced (d : Definition) :
    printDefinition d.unplaced = printDefinition d := by
  cases d with
  | schema d =>
      simp only [Definition.unplaced, printDefinition, printSchemaDecl, SchemaDecl.unplaced,
        printDirectives_unplaced]
  | directive d =>
      simp only [Definition.unplaced, printDefinition, printDirectiveDecl, DirectiveDecl.unplaced,
        printArguments_unplaced]
  | type d =>
      simp only [Definition.unplaced, printDefinition, printTypeDecl, TypeDecl.unplaced,
        printDirectives_unplaced, printTypeBody_unplaced, typeKeyword_unplaced]

theorem print_map_unplaced (ds : List Definition) : print (ds.map (·.unplaced)) = print ds := by
  unfold print
  simp only [List.map_map, Function.comp_def, printDefinition_unplaced]

/-- Definitions that differ in positions only have the same text. -/
theorem print_congr {ds es : List Definition}
    (same : ds.map (·.unplaced) = es.map (·.unplaced)) : print ds = print es := by
  rw [← print_map_unplaced ds, same, print_map_unplaced]

end Sdl

theorem hasDirective_unplaced (ds : List Directive) (name : String) :
    hasDirective (ds.map (·.unplaced)) name = hasDirective ds name := by
  unfold hasDirective
  rw [List.any_map]
  rfl

theorem InputValue.map_name_unplaced (values : List InputValue) :
    (values.map (·.unplaced)).map (·.name) = values.map (·.name) := by
  rw [List.map_map]
  rfl

theorem InputValue.map_base_unplaced (values : List InputValue) :
    (values.map (·.unplaced)).map (·.type.base) = values.map (·.type.base) := by
  rw [List.map_map]
  rfl

theorem Field.references_unplaced (f : Field) : f.unplaced.references = f.references := by
  rw [references, unplaced, InputValue.map_base_unplaced]
  rfl

namespace Definition

theorem definedType?_unplaced (d : Definition) : d.unplaced.definedType? = d.definedType? := by
  cases d <;> rfl

theorem extendedType?_unplaced (d : Definition) :
    d.unplaced.extendedType? = d.extendedType? := by
  cases d <;> rfl

theorem typeName?_unplaced (d : Definition) : d.unplaced.typeName? = d.typeName? := by
  cases d <;> rfl

theorem directiveName?_unplaced (d : Definition) :
    d.unplaced.directiveName? = d.directiveName? := by
  cases d <;> rfl

theorem references_unplaced (d : Definition) : d.unplaced.references = d.references := by
  cases d with
  | schema d => rfl
  | directive d => exact InputValue.map_base_unplaced d.arguments
  | type d =>
      obtain ⟨role, position, name, directives, body⟩ := d
      cases body with
      | output kind interfaces fields =>
          simp only [unplaced, TypeDecl.unplaced, TypeBody.unplaced, references,
            TypeBody.references, List.flatMap_map, Field.references_unplaced]
      | input fields => exact InputValue.map_base_unplaced fields
      | scalar | union | enum => rfl

theorem coordinates_unplaced (d : Definition) : d.unplaced.coordinates = d.coordinates := by
  cases d with
  | schema d => rfl
  | directive d => rfl
  | type d =>
      obtain ⟨role, position, name, directives, body⟩ := d
      cases body with
      | output kind interfaces fields =>
          simp only [unplaced, TypeDecl.unplaced, TypeBody.unplaced, coordinates,
            TypeBody.fieldNames, List.map_map]
          rfl
      | input fields =>
          simp only [unplaced, TypeDecl.unplaced, TypeBody.unplaced, coordinates,
            TypeBody.fieldNames, InputValue.map_name_unplaced]
      | scalar | union | enum => rfl

theorem outputFields_unplaced (d : Definition) :
    d.unplaced.outputFields = d.outputFields.map fun entry => (entry.1, entry.2.unplaced) := by
  cases d with
  | schema d => rfl
  | directive d => rfl
  | type d =>
      obtain ⟨role, position, name, directives, body⟩ := d
      cases body with
      | output kind interfaces fields =>
          simp only [unplaced, TypeDecl.unplaced, TypeBody.unplaced, outputFields,
            TypeDecl.outputFields, List.map_map]
          rfl
      | scalar | union | enum | input => rfl

end Definition

namespace Document

/-- Documents with the same definitions in the same order, up to positions and origins. -/
def Alike (xs ys : Document) : Prop :=
  xs.definitions.map (·.unplaced) = ys.definitions.map (·.unplaced)

namespace Alike

variable {xs ys : Document} {β : Type}

theorem of_definitions (same : xs.definitions = ys.definitions) : xs.Alike ys := by
  unfold Alike
  rw [same]

theorem filterMap_eq (alike : xs.Alike ys) {g : Definition → Option β}
    (blind : ∀ d, g d.unplaced = g d) :
    xs.definitions.filterMap g = ys.definitions.filterMap g := by
  have stripped : ∀ ds : List Definition,
      (ds.map (·.unplaced)).filterMap g = ds.filterMap g := by
    intro ds
    simp only [List.filterMap_map, Function.comp_def, blind]
  rw [← stripped, alike, stripped]

theorem flatMap_eq (alike : xs.Alike ys) {g : Definition → List β}
    (blind : ∀ d, g d.unplaced = g d) :
    xs.definitions.flatMap g = ys.definitions.flatMap g := by
  have stripped : ∀ ds : List Definition,
      (ds.map (·.unplaced)).flatMap g = ds.flatMap g := by
    intro ds
    simp only [List.flatMap_map, blind]
  rw [← stripped, alike, stripped]

/-- What holds of all fields of a document holds of those of one alike, if it is blind to
positions. -/
theorem forall_outputFields (alike : xs.Alike ys) {P : String × Field → Prop}
    (blind : ∀ type f, P (type, f.unplaced) ↔ P (type, f))
    (all : ∀ entry ∈ xs.outputFields, P entry) : ∀ entry ∈ ys.outputFields, P entry := by
  have stripped : ∀ doc : Document,
      (doc.definitions.map (·.unplaced)).flatMap (·.outputFields) =
        doc.outputFields.map fun entry => (entry.1, entry.2.unplaced) := by
    intro doc
    simp only [List.flatMap_map, Definition.outputFields_unplaced, outputFields_eq_flatMap,
      List.map_flatMap]
  have same := stripped ys
  rw [← alike, stripped xs] at same
  intro entry member
  have image : (entry.1, entry.2.unplaced) ∈
      xs.outputFields.map fun entry => (entry.1, entry.2.unplaced) := by
    rw [same]
    exact List.mem_map_of_mem member
  obtain ⟨⟨type, f⟩, present, equal⟩ := List.mem_map.mp image
  have holds := (blind type f).mpr (all (type, f) present)
  rw [equal] at holds
  exact (blind entry.1 entry.2).mp holds

theorem typeNames_eq (alike : xs.Alike ys) : xs.typeNames = ys.typeNames :=
  alike.filterMap_eq Definition.typeName?_unplaced

theorem directiveNames_eq (alike : xs.Alike ys) : xs.directiveNames = ys.directiveNames :=
  alike.filterMap_eq Definition.directiveName?_unplaced

theorem wellFormedWith (alike : xs.Alike ys) {given : List String}
    (wellFormed : xs.WellFormedWith given) : ys.WellFormedWith given := by
  have defined : xs.definedTypes = ys.definedTypes :=
    alike.filterMap_eq Definition.definedType?_unplaced
  have extended : xs.extendedTypes = ys.extendedTypes :=
    alike.filterMap_eq Definition.extendedType?_unplaced
  have declared : xs.coordinates = ys.coordinates :=
    alike.flatMap_eq Definition.coordinates_unplaced
  have referred : xs.references = ys.references :=
    alike.flatMap_eq Definition.references_unplaced
  refine wellFormed.transfer (.of_eq defined) ?_ (.of_eq declared) ?_
    (List.Perm.of_eq extended.symm).subset (List.Perm.of_eq referred.symm).subset
    (List.Subset.refl _)
  · rw [alike.directiveNames_eq]
    exact id
  · apply alike.forall_outputFields _ wellFormed.argumentsOnce
    intro type f
    rw [Field.unplaced, InputValue.map_name_unplaced]

end Alike

end Document

end PagedSchema
