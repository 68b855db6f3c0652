/-
Schema files: those that are named, and in directories those with a wanted extension, in the order
of their names; and reading them as text.

A file that is there can be opened and read, so no error says that this failed: reading ends at a
path without a file, or at bytes that are no text.
-/
import PagedSchema.Files.FileSystem
import PagedSchema.Text.Plain
import PagedSchema.Text.Quoted

namespace PagedSchema

structure SearchError where
  path : String
  reason : PathError
deriving DecidableEq

def SearchError.message (e : SearchError) : String :=
  s!"IO error for operation on {e.path}: {e.reason.message}"

namespace Discovery

/-- An extension as it is compared: without points in front, in lower case. -/
def normalize (extension : String) : String :=
  (String.ofList (extension.toList.dropWhile (· = '.'))).toLower

def hasExtension (wanted : List String) (name : String) : Bool :=
  (Path.extension? name).any (wanted.contains ·.toLower)

/-- The paths found at each entry, put in the order of the entries' names, or the error of the
first entry in that order that has one. -/
def inOrder (found : List (String × Except SearchError (List String))) :
    Except SearchError (List String) :=
  List.flatten <$> (found.mergeSort fun a b => a.1 ≤ b.1).mapM (·.2)

mutual

/-- The files below a directory whose names `keep` accepts. A directory is opened by its whole
path, so one that is too long ends the search. A file found is not opened. -/
def filesBelow (keep : String → Bool) (path : String) : Node → Except SearchError (List String)
  | .file _ => .ok []
  | .directory entries =>
    if path.utf8ByteSize > longestPath then .error ⟨path, .nameTooLong⟩
    else inOrder (filesAt keep path entries)

def filesAt (keep : String → Bool) (path : String) :
    List (String × Node) → List (String × Except SearchError (List String))
  | [] => []
  | (name, node) :: rest =>
    (name,
      if node.isFile then .ok (if keep name then [Path.join path name] else [])
      else filesBelow keep (Path.join path name) node) :: filesAt keep path rest

end

end Discovery

namespace FileSystem

def schemaFilesAt (fs : FileSystem) (extensions : List String) (path : String) :
    Except SearchError (List String) :=
  match fs.find path with
  | .error reason => .error ⟨path, reason⟩
  | .ok (.file _) => .ok [path]
  | .ok node =>
    let wanted := extensions.map Discovery.normalize
    Discovery.filesBelow (Discovery.hasExtension wanted) path node

def schemaFiles (fs : FileSystem) (extensions paths : List String) :
    Except SearchError (List String) :=
  List.flatten <$> paths.mapM (fs.schemaFilesAt extensions)

end FileSystem

inductive ReadError
  | invalidText (path : String) (validBytes : Nat)
  | notAFile (path : String)
deriving DecidableEq

def ReadError.message : ReadError → String
  | invalidText path validBytes =>
    s!"The schema file at {Text.quoted path} is not valid UTF-8 " ++
      s!"(invalid byte sequence after byte offset {validBytes})"
  | notAFile path => s!"Expected a schema file, but {Text.quoted path} is not a file"

namespace FileSystem

def readText (fs : FileSystem) (path : String) : Except ReadError String :=
  match fs.find path with
  | .ok (.file bytes) => (Text.decode bytes).mapError (.invalidText path)
  | _ => .error (.notAFile path)

end FileSystem

end PagedSchema
