/-
Structural errors of a schema. Each definition makes claims about the schema around it: the fields
it declares, the types it refers to, the type it extends, and the arguments it repeats. The errors
are the names that are defined twice, then the claims that fail, in order.
-/
import PagedSchema.Schema
import PagedSchema.Table

namespace PagedSchema

inductive SchemaError
  | duplicateArgument (field : Coordinate) (argument : String) (location : Location)
  | duplicateDirective (name : String) (first second : Location)
  | duplicateField (field : Coordinate) (first second : Location)
  | duplicateType (name : String) (first second : Location)
  | undefinedExtended (type : String) (location : Location)
  | undefinedType (name referencedBy : String) (location : Location)
deriving DecidableEq

def SchemaError.message : SchemaError → String
  | duplicateArgument field argument location =>
    s!"The `{argument}` argument is defined more than once on `{field.text}` " ++
      s!"(at {location.text})"
  | duplicateDirective name first second =>
    s!"Multiple directives were defined with the name `@{name}` " ++
      s!"(at {first.text} and {second.text})"
  | duplicateField field first second =>
    s!"Multiple fields named `{field.field}` were defined on the `{field.type}` type " ++
      s!"(at {first.text} and {second.text})"
  | duplicateType name first second =>
    s!"Multiple GraphQL types with the name `{name}` were defined " ++
      s!"(at {first.text} and {second.text})"
  | undefinedExtended type location =>
    s!"Attempted to extend the `{type}` type, but no type with that name is defined " ++
      s!"(at {location.text})"
  | undefinedType name referencedBy location =>
    s!"There is no type defined with the name `{name}` " ++
      s!"(referenced by {referencedBy} at {location.text})"

inductive Check
  | declares (field : Coordinate) (location : Location)
  | refers (name referencedBy : String) (location : Location)
  | repeatsArgument (field : Coordinate) (argument : String) (location : Location)
  | extends (type : String) (location : Location)
deriving DecidableEq

namespace Check

def ofInputs (origin : Origin) (owner : String) (values : List InputValue) : List Check :=
  values.map fun v => .refers v.type.base s!"{owner}({v.name}:)" (origin.locate v.position)

/-- The arguments whose name an argument before them has. -/
def repeatedArguments (origin : Origin) (field : Coordinate) (arguments : List InputValue) :
    List Check :=
  (repeats (arguments.map fun a => (a.name, origin.locate a.position))).map
    fun (name, _, location) => .repeatsArgument field name location

def ofField (origin : Origin) (type : String) (f : Field) : List Check :=
  let field : Coordinate := ⟨type, f.name⟩
  let location := origin.locate f.position
  [.declares field location, .refers f.type.base field.text location] ++
    repeatedArguments origin field f.arguments ++ ofInputs origin field.text f.arguments

def ofTypeBody (origin : Origin) (type : String) (location : Location) : TypeBody → List Check
  | .scalar => []
  | .enum _ => []
  | .output _ interfaces fields =>
    interfaces.map (.refers · type location) ++ fields.flatMap (ofField origin type)
  | .union members => members.map (.refers · type location)
  | .input fields =>
    (fields.map fun f => .declares ⟨type, f.name⟩ (origin.locate f.position)) ++
      ofInputs origin type fields

def ofType (t : SourcedType) : List Check :=
  (if t.decl.isExtension then [.extends t.decl.name t.location] else []) ++
    ofTypeBody t.origin t.decl.name t.location t.decl.body

def ofSchema (d : SchemaDecl) (location : Location) : List Check :=
  let root (operation : String) (type : Option String) : List Check :=
    (type.map (.refers · operation location)).toList
  root "schema.query" d.query ++ root "schema.mutation" d.mutation ++
    root "schema.subscription" d.subscription

def ofDefinition (s : Sourced) : List Check :=
  match s.definition with
  | .schema d => ofSchema d s.location
  | .directive d => ofInputs s.origin ("@" ++ d.name) d.arguments
  | .type d => ofType ⟨s.origin, d⟩

end Check

def Document.checks (doc : Document) : List Check := doc.flatMap Check.ofDefinition

/-- What a definition defines. Types and directives have names of their own. -/
inductive DefinedName
  | type (name : String)
  | directive (name : String)
deriving DecidableEq

/-- Extensions and schema definitions define nothing. -/
def Sourced.defines? (s : Sourced) : Option DefinedName :=
  match s.definition with
  | .schema _ => none
  | .directive d => some (.directive d.name)
  | .type d => if d.isExtension then none else some (.type d.name)

def DefinedName.duplicate : DefinedName → Location → Location → SchemaError
  | .type name, first, second => .duplicateType name first second
  | .directive name, first, second => .duplicateDirective name first second

namespace Document

/-- Every later definition of a type or directive. -/
def duplicateDefinitions (doc : Document) : List SchemaError :=
  (repeats (doc.filterMap fun s => s.defines?.map fun name => (name, s.location))).map
    fun (name, first, second) => name.duplicate first second

/-- The errors of checks in their order. `defined` names the types of the document, and `seen` the
fields declared so far. -/
def failedChecks (defined : List String) (seen : Table Coordinate Location) :
    List Check → List SchemaError
  | [] => []
  | .declares field location :: rest =>
    match seen.get? field with
    | some first => .duplicateField field first location :: failedChecks defined seen rest
    | none => failedChecks defined (seen.insert field location) rest
  | .refers name referencedBy location :: rest =>
    if isBuiltinScalar name || defined.contains name then failedChecks defined seen rest
    else .undefinedType name referencedBy location :: failedChecks defined seen rest
  | .repeatsArgument field argument location :: rest =>
    .duplicateArgument field argument location :: failedChecks defined seen rest
  | .extends type location :: rest =>
    if defined.contains type then failedChecks defined seen rest
    else .undefinedExtended type location :: failedChecks defined seen rest

def errors (doc : Document) : List SchemaError :=
  doc.duplicateDefinitions ++
    failedChecks (doc.typeDefinitions.map (·.decl.name)) .empty doc.checks

end Document

end PagedSchema
