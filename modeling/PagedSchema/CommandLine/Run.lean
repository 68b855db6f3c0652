/-
Running commands over a file system.
-/
import PagedSchema.CommandLine.Arguments
import PagedSchema.Connection.Paged
import PagedSchema.Files.Read
import PagedSchema.Sources

namespace PagedSchema.CommandLine

inductive CommandError
  | search (error : SearchError)
  | nothingFound (paths : List String)
  | load (error : LoadError)
  | transform (error : PagingError)
  | write (path : String) (reason : PathError)
deriving DecidableEq

def CommandError.message : CommandError → String
  | search error => s!"❌ Failed to search for schema files: {error.message}"
  | nothingFound paths => s!"❌ No GraphQL files found under {Text.quotedList paths}."
  | load error => s!"❌ Failed to transform the schema: {error.message}"
  | transform error => s!"❌ Failed to transform the schema: {error.message}"
  | write path reason => s!"❌ Failed to write {Text.quoted path}: {reason.message}"

/-- What a command leaves: its exit code and its texts, without line endings after them. -/
structure CommandResult where
  exitCode : Nat
  stdout : Option String
  stderr : Option String

namespace CommandResult

def success (text : String) : CommandResult := ⟨0, some text, none⟩

def silentSuccess : CommandResult := ⟨0, none, none⟩

def failure (error : CommandError) : CommandResult := ⟨1, none, some error.message⟩

end CommandResult

namespace TransformOptions

/-- The transformed schema of the files that the options name. -/
def sdl (o : TransformOptions) (fs : FileSystem) : Except CommandError String := do
  let files ← (fs.schemaFiles o.extensions o.paths).mapError .search
  if files.isEmpty then throw (.nothingFound o.paths)
  let sources ← (Sources.empty.addFiles fs files).mapError .load
  let transformed ← (sources.document.paginate o.settings).mapError .transform
  return transformed.sdl

def outcome (o : TransformOptions) (fs : FileSystem) :
    Except CommandError (CommandResult × FileSystem) := do
  let sdl ← o.sdl fs
  match o.output with
  | none => return (.success (Text.trimEnd sdl), fs)
  | some path =>
    let fs ← (fs.write path sdl.toUTF8.toList).mapError (.write path)
    return (.silentSuccess, fs)

end TransformOptions

/-- A command that fails leaves the file system as it is. -/
def Command.run (fs : FileSystem) : Command → CommandResult × FileSystem
  | .directive name => (.success (markerDeclaration name), fs)
  | .transform options =>
    match options.outcome fs with
    | .ok result => result
    | .error error => (.failure error, fs)

end PagedSchema.CommandLine
