/-
Connections: the types generated for them, whose names must be new to the schema, and the fields
that become them. The walk over the fields stops at the first one that has a pagination argument of
its own, and the fields that became connections before stay so.
-/
import PagedSchema.Connection.Survey

namespace PagedSchema

def pageInfoName : String := "PageInfo"

def edgeName (base : String) : String := base ++ "Edge"

def connectionName (base : String) : String := base ++ "Connection"

structure NameCollision where
  name : String
  base : String
  existing : Location
deriving DecidableEq

def NameCollision.message (c : NameCollision) : String :=
  s!"The `{c.name}` type generated for connections of `{c.base}` conflicts with an " ++
    s!"existing type of the same name (defined at {c.existing.text})"

namespace Generated

def objectType (name : String) (directives : List Directive) (fields : List Field) : TypeDecl :=
  ⟨.definition none, .nowhere, name, directives, .output .object [] fields⟩

def plainField (name : String) (type : TypeRef) (directives : List Directive) : Field :=
  ⟨.nowhere, none, name, [], type, directives⟩

def pageInfo : TypeDecl :=
  objectType pageInfoName []
    [plainField "hasNextPage" (.nonNull (.named "Boolean")) [],
     plainField "hasPreviousPage" (.nonNull (.named "Boolean")) [],
     plainField "startCursor" (.named "String") [],
     plainField "endCursor" (.named "String") []]

def edge (base : String) (hint : List Directive) : TypeDecl :=
  objectType (edgeName base) hint
    [plainField "cursor" (.nonNull (.named "String")) [],
     plainField "node" (.named base) []]

def connection (base : String) (hint : List Directive) : TypeDecl :=
  objectType (connectionName base) []
    [plainField "totalCount" (.nonNull (.named "Int")) [],
     plainField "edges" (.list (.named (edgeName base))) hint,
     plainField "pageInfo" (.nonNull (.named pageInfoName)) hint]

/-- The directive for a hint, if hints are in use. -/
def hintDirective (settings : Settings) (hint : Option Int) : List Directive :=
  match settings.cacheHints, hint with
  | some hints, some n => [.ofInt hints.directive hints.argument n]
  | _, _ => []

def pair (settings : Settings) (spec : String × Option Int) : List TypeDecl :=
  let hint := hintDirective settings spec.2
  [edge spec.1 hint, connection spec.1 hint]

end Generated

namespace Survey

/-- The generated names of a base type that the schema has, the edge first. -/
def collision? (survey : Survey) (base : String) : Option NameCollision :=
  [edgeName base, connectionName base].findSome? fun name =>
    (survey.declared.get? name).map fun existing => ⟨name, base, existing⟩

/-- The generated types in the order of the base types, after page information if the schema has
none. -/
def generate (survey : Survey) (settings : Settings) : Except NameCollision (List TypeDecl) :=
  match survey.baseTypes.findSome? survey.collision? with
  | some collision => .error collision
  | none => .ok ((if survey.hasType pageInfoName then [] else [Generated.pageInfo]) ++
      survey.specs.flatMap (Generated.pair settings))

end Survey

/-- The names and types of the arguments that page through a connection. -/
def paginationArguments : List (String × String) :=
  [("after", "String"), ("first", "Int"), ("before", "String"), ("last", "Int")]

def isPaginationArgument (name : String) : Bool := paginationArguments.any (·.1 == name)

def paginationInputs : List InputValue :=
  paginationArguments.map fun (name, type) => ⟨.nowhere, none, name, .named type, none, []⟩

structure ArgumentConflict where
  field : Coordinate
  marker : String
  argument : String
  location : Location
deriving DecidableEq

def ArgumentConflict.message (c : ArgumentConflict) : String :=
  s!"`{c.field.text}` is marked with `@{c.marker}` but already defines an `{c.argument}` " ++
    s!"argument (at {c.location.text}), which is one of the pagination arguments added to " ++
    "connection fields"

def Field.toConnection (f : Field) (base marker : String) : Field :=
  { f with
    type := .named (connectionName base)
    arguments := f.arguments ++ paginationInputs
    directives := f.directives.filter (·.name != marker) }

/-- Steps through a list up to the first failure: the list with what is done so far, and the
results of all steps or the failure. -/
def stepThrough {α β ε : Type} (step : α → α × Except ε (List β)) :
    List α → List α × Except ε (List β)
  | [] => ([], .ok [])
  | a :: rest =>
    match step a with
    | (a', .error e) => (a' :: rest, .error e)
    | (a', .ok bs) =>
      let (rest', result) := stepThrough step rest
      (a' :: rest', result.map (bs ++ ·))

namespace Survey

/-- The base type of a field that is to become a connection: it has the marker, and the survey
knows it. -/
def selected? (survey : Survey) (marker type : String) (f : Field) : Option String :=
  if hasDirective f.directives marker then survey.marked.get? ⟨type, f.name⟩ else none

def connectField (survey : Survey) (marker : String) (origin : Origin) (type : String) (f : Field) :
    Field × Except ArgumentConflict (List Coordinate) :=
  match survey.selected? marker type f with
  | none => (f, .ok [])
  | some base =>
    match f.arguments.find? (isPaginationArgument ·.name) with
    | some a => (f, .error ⟨⟨type, f.name⟩, marker, a.name, origin.locate a.position⟩)
    | none => (f.toConnection base marker, .ok [⟨type, f.name⟩])

def connectType (survey : Survey) (marker : String) (origin : Origin) (d : TypeDecl) :
    TypeDecl × Except ArgumentConflict (List Coordinate) :=
  match d.body with
  | .output kind interfaces fields =>
    let (fields, result) := stepThrough (survey.connectField marker origin d.name) fields
    ({ d with body := .output kind interfaces fields }, result)
  | _ => (d, .ok [])

def connectDefinition (survey : Survey) (marker : String) (s : Sourced) :
    Sourced × Except ArgumentConflict (List Coordinate) :=
  match s.definition with
  | .type d =>
    let (d, result) := survey.connectType marker s.origin d
    ({ s with definition := .type d }, result)
  | _ => (s, .ok [])

/-- The document that the walk leaves, and its new connection fields in order or the conflict that
stopped it. -/
def connect (survey : Survey) (settings : Settings) (doc : Document) :
    Document × Except ArgumentConflict (List Coordinate) :=
  stepThrough (survey.connectDefinition settings.marker) doc

end Survey

end PagedSchema
