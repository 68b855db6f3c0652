/-
Schemas: where definitions stand, what they are made of, and documents of them. A type definition
and a type extension have the same content, and object and interface types have the same body, so
one shape stands for all of them.
-/
import PagedSchema.Decimal

namespace PagedSchema

/-- A line and a column, both counted from one. -/
structure Position where
  line : Nat
  column : Nat
deriving DecidableEq

def Position.nowhere : Position := ⟨0, 0⟩

def Position.right (p : Position) (columns : Nat) : Position := ⟨p.line, p.column + columns⟩

def Position.nextLine (p : Position) : Position := ⟨p.line + 1, 1⟩

/-- Where a definition came from: a source with its path, or this library. -/
inductive Origin
  | source (path : String)
  | generated
deriving DecidableEq

inductive Location
  | at (path : String) (position : Position)
  | generated
deriving DecidableEq

def Origin.locate : Origin → Position → Location
  | .source path, position => .at path position
  | .generated, _ => .generated

def Origin.path? : Origin → Option String
  | .source path => some path
  | .generated => .none

def Location.text : Location → String
  | .at path position => s!"{path}:{position.line}:{position.column}"
  | .generated => "<synthesized>"

structure Coordinate where
  type : String
  field : String
deriving DecidableEq

namespace Coordinate

def text (c : Coordinate) : String := s!"{c.type}.{c.field}"

/-- By the name of the type, then by that of the field. -/
def le (c d : Coordinate) : Bool := c.type < d.type || (c.type = d.type && c.field ≤ d.field)

def sort (cs : List Coordinate) : List Coordinate := cs.mergeSort le

end Coordinate

inductive TypeRef
  | named (name : String)
  | list (inner : TypeRef)
  | nonNull (inner : TypeRef)
deriving DecidableEq

namespace TypeRef

def base : TypeRef → String
  | named name => name
  | list inner => inner.base
  | nonNull inner => inner.base

def print : TypeRef → String
  | named name => name
  | list inner => s!"[{inner.print}]"
  | nonNull inner => s!"{inner.print}!"

end TypeRef

def builtinScalars : List String := ["Boolean", "Float", "ID", "Int", "String"]

def isBuiltinScalar (name : String) : Bool := builtinScalars.contains name

/-- The fields of an object stand in the order of their names, each name once. -/
inductive Value
  | variable (name : String)
  | int (n : Int)
  | float (x : Decimal.Binary64)
  | string (text : String)
  | boolean (b : Bool)
  | null
  | enum (name : String)
  | list (items : List Value)
  | object (fields : List (String × Value))

structure Directive where
  position : Position
  name : String
  arguments : List (String × Value)

def fitsInt32 (n : Int) : Bool := -2147483648 ≤ n && n < 2147483648

/-- The 32-bit integer that a value stands for. A whole number may be written as a float. -/
def Value.int32? : Value → Option Int
  | .int n => if fitsInt32 n then some n else none
  | .float x => x.toInt?.filter fitsInt32
  | _ => none

namespace Directive

def int32? (d : Directive) (argument : String) : Option Int :=
  (d.arguments.find? (·.1 == argument)).bind (·.2.int32?)

def ofInt (name argument : String) (n : Int) : Directive :=
  ⟨.nowhere, name, [(argument, .int n)]⟩

end Directive

def findDirective? (directives : List Directive) (name : String) : Option Directive :=
  directives.find? (·.name == name)

def hasDirective (directives : List Directive) (name : String) : Bool :=
  directives.any (·.name == name)

def readInt32? (directives : List Directive) (name argument : String) : Option Int :=
  (findDirective? directives name).bind (·.int32? argument)

/-- An argument of a field or directive, or a field of an input type. -/
structure InputValue where
  position : Position
  description : Option String
  name : String
  type : TypeRef
  default : Option Value
  directives : List Directive

structure Field where
  position : Position
  description : Option String
  name : String
  arguments : List InputValue
  type : TypeRef
  directives : List Directive

structure EnumValue where
  position : Position
  description : Option String
  name : String
  directives : List Directive

inductive OutputKind
  | object
  | interface
deriving DecidableEq

inductive TypeBody
  | scalar
  | output (kind : OutputKind) (interfaces : List String) (fields : List Field)
  | union (members : List String)
  | enum (values : List EnumValue)
  | input (fields : List InputValue)

/-- A type is defined, perhaps with a description, or a type of its name is extended. -/
inductive Role
  | definition (description : Option String)
  | extension
deriving DecidableEq

def Role.isExtension : Role → Bool
  | definition _ => false
  | extension => true

structure TypeDecl where
  role : Role
  position : Position
  name : String
  directives : List Directive
  body : TypeBody

inductive DirectivePlace
  | query | mutation | subscription | field | fragmentDefinition | fragmentSpread
  | inlineFragment | schema | scalar | object | fieldDefinition | argumentDefinition
  | interface | union | enum | enumValue | inputObject | inputFieldDefinition
  | variableDefinition
deriving DecidableEq

namespace DirectivePlace

def all : List DirectivePlace :=
  [query, mutation, subscription, field, fragmentDefinition, fragmentSpread, inlineFragment,
   schema, scalar, object, fieldDefinition, argumentDefinition, interface, union, enum,
   enumValue, inputObject, inputFieldDefinition, variableDefinition]

def name : DirectivePlace → String
  | query => "QUERY"
  | mutation => "MUTATION"
  | subscription => "SUBSCRIPTION"
  | field => "FIELD"
  | fragmentDefinition => "FRAGMENT_DEFINITION"
  | fragmentSpread => "FRAGMENT_SPREAD"
  | inlineFragment => "INLINE_FRAGMENT"
  | schema => "SCHEMA"
  | scalar => "SCALAR"
  | object => "OBJECT"
  | fieldDefinition => "FIELD_DEFINITION"
  | argumentDefinition => "ARGUMENT_DEFINITION"
  | interface => "INTERFACE"
  | union => "UNION"
  | enum => "ENUM"
  | enumValue => "ENUM_VALUE"
  | inputObject => "INPUT_OBJECT"
  | inputFieldDefinition => "INPUT_FIELD_DEFINITION"
  | variableDefinition => "VARIABLE_DEFINITION"

def ofName? (text : String) : Option DirectivePlace := all.find? (·.name == text)

end DirectivePlace

structure DirectiveDecl where
  position : Position
  description : Option String
  name : String
  arguments : List InputValue
  repeatable : Bool
  places : List DirectivePlace

/-- The root operation types. -/
structure SchemaDecl where
  position : Position
  directives : List Directive
  query : Option String
  mutation : Option String
  subscription : Option String

inductive Definition
  | schema (decl : SchemaDecl)
  | directive (decl : DirectiveDecl)
  | type (decl : TypeDecl)

namespace TypeDecl

def isExtension (d : TypeDecl) : Bool := d.role.isExtension

def outputFields (d : TypeDecl) : List Field :=
  match d.body with
  | .output _ _ fields => fields
  | _ => []

end TypeDecl

namespace Definition

def position : Definition → Position
  | schema decl => decl.position
  | directive decl => decl.position
  | type decl => decl.position

def type? : Definition → Option TypeDecl
  | type decl => some decl
  | _ => none

def directive? : Definition → Option DirectiveDecl
  | directive decl => some decl
  | _ => none

end Definition

structure Sourced where
  origin : Origin
  definition : Definition

abbrev Document := List Sourced

def Sourced.location (s : Sourced) : Location := s.origin.locate s.definition.position

structure SourcedType where
  origin : Origin
  decl : TypeDecl

namespace SourcedType

def location (s : SourcedType) : Location := s.origin.locate s.decl.position

end SourcedType

def Sourced.type? (s : Sourced) : Option SourcedType :=
  s.definition.type?.map fun decl => ⟨s.origin, decl⟩

namespace Document

def ofSource (path : String) (definitions : List Definition) : Document :=
  definitions.map fun d => ⟨.source path, d⟩

def definitions (doc : Document) : List Definition := doc.map (·.definition)

def types (doc : Document) : List SourcedType := doc.filterMap (·.type?)

/-- The type definitions of the document, without its extensions. -/
def typeDefinitions (doc : Document) : List SourcedType :=
  doc.types.filter fun t => !t.decl.isExtension

def definesDirective (doc : Document) (name : String) : Bool :=
  doc.definitions.any fun d => d.directive?.any (·.name == name)

/-- The first definition, not extension, of a type. -/
def findType? (doc : Document) (name : String) : Option TypeDecl :=
  (doc.typeDefinitions.find? (·.decl.name == name)).map (·.decl)

end Document

end PagedSchema
