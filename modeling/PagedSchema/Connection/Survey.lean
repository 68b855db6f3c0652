/-
Settings, and what a document says about its connections under them: the types it names, the fields
it marks, the base types of those, and the cache hints.
-/
import PagedSchema.Schema
import PagedSchema.Table
import PagedSchema.Validity

namespace PagedSchema

/-- A cache hint is an integer argument of a directive. -/
structure CacheHints where
  directive : String
  argument : String
deriving DecidableEq

/-- Cache hints are ignored without a setting for them. -/
structure Settings where
  marker : String
  cacheHints : Option CacheHints
deriving DecidableEq

def CacheHints.default : CacheHints := ⟨"cacheControl", "maxAge"⟩

namespace Settings

def default : Settings := ⟨"connection", none⟩

def withMarker (s : Settings) (name : String) : Settings := { s with marker := name }

def withCacheHints (s : Settings) (hints : CacheHints) : Settings := { s with cacheHints := hints }

def withoutCacheHints (s : Settings) : Settings := { s with cacheHints := none }

end Settings

/-- `declared` has the first location of each type that is defined or extended, `marked` the base
type of the last marked declaration of each field, `hints` the greatest hint of each type. Base
types of marked declarations stand in the order in which they are first met. -/
structure Survey where
  declared : Table String Location
  redefinitions : List SchemaError
  marked : Table Coordinate String
  baseTypes : List String
  nodup_baseTypes : baseTypes.Nodup
  hints : Table String Int

namespace Survey

def hasType (survey : Survey) (name : String) : Bool := survey.declared.contains name

/-- Each base type with its hint. -/
def specs (survey : Survey) : List (String × Option Int) :=
  survey.baseTypes.map fun base => (base, survey.hints.get? base)

end Survey

namespace Document

/-- The fields of object and interface types, with the names of their types. -/
def outputFields (doc : Document) : List (String × Field) :=
  doc.types.flatMap fun t => t.decl.outputFields.map (t.decl.name, ·)

def markedFields (doc : Document) (marker : String) : List (Coordinate × String) :=
  (doc.outputFields.filter fun (_, f) => hasDirective f.directives marker).map
    fun (type, f) => (⟨type, f.name⟩, f.type.base)

/-- The hints of a type: on itself for its own name, then on its fields for their base types. -/
def typeHints (hints : CacheHints) (d : TypeDecl) : List (String × Int) :=
  let read (name : String) (directives : List Directive) : Option (String × Int) :=
    (readInt32? directives hints.directive hints.argument).map (name, ·)
  (read d.name d.directives).toList ++
    d.outputFields.filterMap fun f => read f.type.base f.directives

def hintReadings (doc : Document) : Option CacheHints → List (String × Int)
  | none => []
  | some hints => doc.types.flatMap fun t => typeHints hints t.decl

def survey (doc : Document) (settings : Settings) : Survey where
  declared := .ofFirst (doc.types.map fun t => (t.decl.name, t.location))
  redefinitions := (repeats (doc.typeDefinitions.map fun t => (t.decl.name, t.location))).map
    fun (name, first, second) => .duplicateType name first second
  marked := .ofLast (doc.markedFields settings.marker)
  baseTypes := firstMet ((doc.markedFields settings.marker).map (·.2))
  nodup_baseTypes := nodup_firstMet _
  hints := .ofGreatest (doc.hintReadings settings.cacheHints)

end Document

end PagedSchema
