/-
File systems: a tree of directories and files, and how paths lead through it.

Permissions, links, names that are not text and failures of a device are left out: every file can be
read, every directory can be listed, and a path is all that a write can fail by.
-/
import PagedSchema.Table

namespace PagedSchema

namespace Path

/-- The parts of `cs` between separators, of which the first one starts with the characters of
`part`, last one first. -/
def splitFrom (separator : Char) (part : List Char) : List Char → List (List Char)
  | [] => [part.reverse]
  | c :: rest =>
    if c = separator then part.reverse :: splitFrom separator [] rest
    else splitFrom separator (c :: part) rest

def split (separator : Char) (s : String) : List String :=
  (splitFrom separator [] s.toList).map String.ofList

def join (directory name : String) : String :=
  if directory.toList.getLast? = some '/' then directory ++ name else directory ++ "/" ++ name

/-- The part of a file's name after its last point. A point in front starts no extension. -/
def extension? (name : String) : Option String :=
  let reversed := name.toList.reverse
  match reversed.dropWhile (· ≠ '.') with
  | _ :: _ :: _ => some (String.ofList (reversed.takeWhile (· ≠ '.')).reverse)
  | _ => none

end Path

inductive Node
  | file (bytes : List UInt8)
  | directory (entries : List (String × Node))

inductive PathError
  | notFound
  | notADirectory
  | isADirectory
  | nameTooLong
  | nulInPath
deriving DecidableEq

def PathError.message : PathError → String
  | notFound => "No such file or directory (os error 2)"
  | notADirectory => "Not a directory (os error 20)"
  | isADirectory => "Is a directory (os error 21)"
  | nameTooLong => "File name too long (os error 36)"
  | nulInPath => "file name contained an unexpected NUL byte"

namespace Node

def isFile : Node → Bool
  | file _ => true
  | directory _ => false

def child? (name : String) : Node → Option Node
  | file _ => none
  | directory entries => entries.lookup name

def at? (node : Node) : List String → Option Node
  | [] => some node
  | name :: rest => (node.child? name).bind (·.at? rest)

/-- Puts `leaf` where names lead to, with the directories on the way. A file is no way. -/
def put (leaf : Node) : List String → Node → Node
  | [], _ => leaf
  | _ :: _, file bytes => file bytes
  | name :: rest, directory entries =>
    directory (upsertEntry name (fun old => put leaf rest (old.getD (directory []))) entries)

end Node

def longestName : Nat := 255

def PathError.ofMissing (name : String) : PathError :=
  if name.utf8ByteSize > longestName then nameTooLong else notFound

def longestPath : Nat := 4095

/-- The segments of a path, unless it is refused before any of them is looked up. -/
def Path.segments (path : String) : Except PathError (List String) := do
  if path = "" then throw .notFound
  if path.toList.contains '\x00' then throw .nulInPath
  if path.utf8ByteSize > longestPath then throw .nameTooLong
  return Path.split '/' path

/-- `current` names the directory that relative paths start from. -/
structure FileSystem where
  root : Node
  current : List String

namespace FileSystem

/-- Follows segments of a path from the directory that `trail` names, last name first. Each
segment is looked up in a directory: a name leads down, two points lead up, one or none stays. -/
def follow (root : Node) (trail : List String) : List String → Except PathError (List String)
  | [] => .ok trail
  | segment :: rest =>
    match root.at? trail.reverse with
    | some (.directory entries) =>
      if segment = "" || segment = "." then follow root trail rest
      else if segment = ".." then follow root (trail.drop 1) rest
      else if (entries.lookup segment).isSome then follow root (segment :: trail) rest
      else .error (.ofMissing segment)
    | some (.file _) => .error .notADirectory
    | none => .error .notFound

/-- Where the segments of a path start: at the root if the first one is empty. -/
def start (fs : FileSystem) : List String → List String
  | "" :: _ => []
  | _ => fs.current.reverse

def resolve (fs : FileSystem) (path : String) : Except PathError (List String) := do
  let segments ← Path.segments path
  let trail ← follow fs.root (fs.start segments) segments
  return trail.reverse

def find (fs : FileSystem) (path : String) : Except PathError Node := do
  let names ← fs.resolve path
  match fs.root.at? names with
  | some node => return node
  | none => throw .notFound

/-- The names that lead to the file that a write to this path makes or replaces. -/
def target (fs : FileSystem) (path : String) : Except PathError (List String) := do
  let segments ← Path.segments path
  let kept := segments.reverse.dropWhile (· = "")
  match kept with
  | [] => throw .isADirectory
  | name :: parents =>
    let trail ← follow fs.root (fs.start segments) (parents.reverse ++ ["."])
    let names := (name :: trail).reverse
    let slashed := kept.length < segments.length
    if slashed || name = "." || name = ".." then throw .isADirectory
    match fs.root.at? names with
    | some (.directory _) => throw .isADirectory
    | some (.file _) => return names
    | none => if name.utf8ByteSize > longestName then throw .nameTooLong else return names

/-- A write that fails leaves every file as it is. -/
def write (fs : FileSystem) (path : String) (bytes : List UInt8) : Except PathError FileSystem := do
  let names ← fs.target path
  return { fs with root := Node.put (.file bytes) names fs.root }

end FileSystem

end PagedSchema
