/-
Sources of a schema, loaded one after the other.
-/
import PagedSchema.Files.Read
import PagedSchema.Sdl.Grammar
import PagedSchema.Schema

namespace PagedSchema

inductive LoadError
  | parse (path : String) (position : Position)
  | read (error : ReadError)
deriving DecidableEq

def LoadError.message : LoadError → String
  | parse path position =>
    s!"Error parsing schema document {Text.quoted path}: {Sdl.parseErrorMessage position}"
  | read error => s!"Failure while trying to read a schema file from disk: {error.message}"

/-- The document loaded so far. `unnamed` counts its sources without a path. -/
structure Sources where
  document : Document
  unnamed : Nat

namespace Sources

def empty : Sources := ⟨[], 0⟩

/-- The path of the next source. One without a path is called after its number. -/
def pathFor (s : Sources) (path : Option String) : String := path.getD s!"str://{s.unnamed}"

/-- Adds definitions as the next source. -/
def add (s : Sources) (path : Option String) (definitions : List Definition) : Sources where
  document := s.document ++ Document.ofSource (s.pathFor path) definitions
  unnamed := if path.isNone then s.unnamed + 1 else s.unnamed

def addText (s : Sources) (path : Option String) (text : String) : Except LoadError Sources := do
  let definitions ← (Sdl.parse text).mapError (.parse (s.pathFor path))
  return s.add path definitions

def addFile (s : Sources) (fs : FileSystem) (path : String) : Except LoadError Sources := do
  let text ← (fs.readText path).mapError .read
  s.addText path text

/-- Adds files in order, up to the first one that fails. -/
def addFiles (s : Sources) (fs : FileSystem) (paths : List String) : Except LoadError Sources :=
  paths.foldlM (fun s path => s.addFile fs path) s

end Sources

end PagedSchema
