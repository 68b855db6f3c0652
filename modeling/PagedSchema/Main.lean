/-
The command line: takes a picture of the files that the arguments name, runs the command over it,
and writes what the command leaves. The texts of its help and usage are its own, and nothing is
logged, so asking for more messages changes nothing.
-/
import PagedSchema.CommandLine.Run

namespace PagedSchema.CommandLine

def usage : String :=
  "Usage: paged-schema [-v] directive [--directive-name NAME]\n" ++
  "       paged-schema [-v] transform [--directive-name NAME] [--cache-hints]\n" ++
  "           [--cache-hint-directive NAME] [--cache-hint-argument NAME]\n" ++
  "           [--graphql-file-exts EXT,...] [-o FILE] FILE_OR_DIR_PATHS..."

def version : String := "paged-schema 0.0.1"

def Stop.text : Stop → String
  | displayHelp => usage
  | displayVersion => version
  | unknownArgument => "error: unexpected argument\n\n" ++ usage
  | invalidSubcommand => "error: unrecognized subcommand\n\n" ++ usage
  | invalidValue => "error: a value is required\n\n" ++ usage
  | missingRequiredArgument => "error: a required argument was not provided\n\n" ++ usage
  | tooManyValues => "error: unexpected value\n\n" ++ usage
  | argumentConflict => "error: an argument cannot be used multiple times\n\n" ++ usage

/-- The names that a path goes through from the root, after the directory it starts from. -/
def plainNames (start : List String) (path : String) : List String :=
  ((Path.split '/' path).foldl (fun trail segment =>
    if segment = "" || segment = "." then trail
    else if segment = ".." then trail.drop 1
    else segment :: trail) (if path.startsWith "/" then [] else start.reverse)).reverse

/-- The paths that a command reads, and the directory it writes to. -/
def Command.mentions : Command → List String
  | .directive _ => []
  | .transform o => o.paths ++ o.output.toList

/-- The node at a path, with all below it. -/
partial def picture (entry : IO.FS.DirEntry) : IO Node := do
  if ← entry.path.isDir then
    let entries ← entry.path.readDir
    return .directory (← entries.toList.mapM fun e => return (e.fileName, ← picture e))
  else return .file (← IO.FS.readBinFile entry.path).toList

def firstSegments (n : Nat) (path : String) : String :=
  "/".intercalate ((Path.split '/' path).take n)

/-- Adds a path to a picture of the file system: the directories on the way, and what it leads
to. -/
def addPicture (current : String) (root : Node) (path : String) : IO Node := do
  let start := plainNames [] current
  let mut root := root
  let count := (Path.split '/' path).length
  for n in List.range count do
    let part := firstSegments (n + 1) path
    let names := plainNames start part
    let entry : IO.FS.DirEntry := ⟨current, part⟩
    if n + 1 < count then
      if (root.at? names).isNone && (← entry.path.isDir) then
        root := Node.put (.directory []) names root
    else if ← entry.path.pathExists then
      root := Node.put (← picture entry) names root
  return root

def fileSystemFor (command : Command) : IO FileSystem := do
  let current := (← IO.currentDir).toString
  let start := plainNames [] current
  let root ← command.mentions.foldlM (addPicture current)
    (Node.put (.directory []) start (.directory []))
  return ⟨root, start⟩

def writeOutput (command : Command) (after : FileSystem) : IO Unit :=
  match command with
  | .transform { output := some path, .. } =>
    match after.find path with
    | .ok (.file bytes) => IO.FS.writeBinFile path ⟨bytes.toArray⟩
    | _ => pure ()
  | _ => pure ()

def runCommand (command : Command) : IO UInt32 := do
  let (result, after) := command.run (← fileSystemFor command)
  if result.exitCode = 0 then writeOutput command after
  if let some text := result.stdout then IO.println text
  if let some text := result.stderr then IO.eprintln text
  return result.exitCode.toUInt32

end PagedSchema.CommandLine

open PagedSchema.CommandLine in
def main (arguments : List String) : IO UInt32 := do
  match read arguments with
  | .error stop =>
    if stop.exitCode = 0 then IO.println stop.text else IO.eprintln stop.text
    return stop.exitCode.toUInt32
  | .ok ⟨_, none⟩ =>
    IO.println usage
    return 0
  | .ok ⟨_, some command⟩ => runCommand command
