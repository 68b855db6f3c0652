/-
Paged schemas: every marked field of a document turned into a connection, with the types that
connections need and the declaration of the marker in front.
-/
import PagedSchema.Connection.Paging
import PagedSchema.Connection.Survey
import PagedSchema.Schema
import PagedSchema.Sdl.Printer
import PagedSchema.Validity

namespace PagedSchema

def markerDecl (name : String) : DirectiveDecl :=
  ⟨.nowhere, none, name, [], false, [.fieldDefinition]⟩

/-- The declaration of a marker as text, without a line ending. -/
def markerDeclaration (name : String) : String :=
  Text.trimEnd (Sdl.print [.directive (markerDecl name)])

namespace Document

def markerDeclarations (doc : Document) (marker : String) : Document :=
  if doc.definesDirective marker then [] else [⟨.generated, .directive (markerDecl marker)⟩]

def withGenerated (doc : Document) (types : List TypeDecl) (settings : Settings) : Document :=
  (types.map fun d => ⟨.generated, .type d⟩) ++ doc.markerDeclarations settings.marker ++ doc

end Document

inductive PagingError
  | nameCollision (collision : NameCollision)
  | argumentConflict (conflict : ArgumentConflict)
  | invalid (errors : List SchemaError)
deriving DecidableEq

def PagingError.message : PagingError → String
  | nameCollision collision => collision.message
  | argumentConflict conflict => conflict.message
  | invalid errors =>
    "Encountered the following structural errors in the transformed schema:\n\n" ++
      "\n".intercalate (errors.map fun e => "  * " ++ e.message)

/-- A schema with its connections, the fields that became connections in document order, and the
names of the generated types. -/
structure Paged where
  document : Document
  connected : List Coordinate
  generated : List String

def Paged.sdl (p : Paged) : String := Sdl.print p.document.definitions

namespace Document

/-- Nothing is generated over a document that defines a type twice; all its errors are given. -/
def paginate (doc : Document) (settings : Settings) : Except PagingError Paged := do
  let survey := doc.survey settings
  unless survey.redefinitions.isEmpty do throw (.invalid doc.errors)
  let types ← (survey.generate settings).mapError .nameCollision
  let (document, result) := survey.connect settings (doc.withGenerated types settings)
  let connected ← result.mapError .argumentConflict
  let errors := document.errors
  unless errors.isEmpty do throw (.invalid errors)
  return ⟨document, connected, types.map (·.name)⟩

end Document

end PagedSchema
