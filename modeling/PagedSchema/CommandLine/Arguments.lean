/-
Command lines: the switches that commands know, their values and paths, and the command that a line
asks for.
-/
import PagedSchema.Connection.Survey
import PagedSchema.Files.FileSystem

namespace PagedSchema.CommandLine

/-- Where arguments are read: before any command, or for one. -/
inductive Scope
  | top
  | directive
  | transform
deriving DecidableEq

inductive Switch
  | help
  | version
  | verbose
  | directiveName
  | cacheHints
  | cacheHintDirective
  | cacheHintArgument
  | extensions
  | output
deriving DecidableEq

namespace Switch

def takesValue : Switch → Bool
  | help | version | verbose | cacheHints => false
  | directiveName | cacheHintDirective | cacheHintArgument | extensions | output => true

def isRepeatable (s : Switch) : Bool := s = extensions

/-- Whether an empty value is refused. -/
def isPath (s : Switch) : Bool := s = output

def long : Switch → String
  | help => "help"
  | version => "version"
  | verbose => "verbose"
  | directiveName => "directive-name"
  | cacheHints => "cache-hints"
  | cacheHintDirective => "cache-hint-directive"
  | cacheHintArgument => "cache-hint-argument"
  | extensions => "graphql-file-exts"
  | output => "output"

def short? : Switch → Option Char
  | help => some 'h'
  | version => some 'V'
  | verbose => some 'v'
  | output => some 'o'
  | _ => none

end Switch

namespace Scope

def switches : Scope → List Switch
  | top => [.help, .version, .verbose]
  | directive => [.help, .directiveName]
  | transform =>
    [.help, .directiveName, .cacheHints, .cacheHintDirective, .cacheHintArgument, .extensions,
     .output]

def findLong? (scope : Scope) (name : String) : Option Switch :=
  scope.switches.find? (·.long == name)

def findShort? (scope : Scope) (c : Char) : Option Switch :=
  scope.switches.find? (·.short? == some c)

end Scope

inductive Stop
  | displayHelp
  | displayVersion
  | unknownArgument
  | invalidSubcommand
  | invalidValue
  | missingRequiredArgument
  | tooManyValues
  | argumentConflict
deriving DecidableEq

/-- Help and version are answers, the rest are mistakes. -/
def Stop.exitCode : Stop → Nat
  | displayHelp => 0
  | displayVersion => 0
  | _ => 2

/-- What is read but not accepted yet: a switch whose value may come as the next argument, or
paths, which more paths may follow. -/
inductive Pending
  | nothing
  | value (s : Switch) (text : Option String)
  | paths (texts : List String)

structure Reading where
  flags : List Switch
  values : List (Switch × String)
  paths : List String
  pending : Pending

namespace Reading

def empty : Reading := ⟨[], [], [], .nothing⟩

def has (r : Reading) (s : Switch) : Bool := r.flags.contains s

def value? (r : Reading) (s : Switch) : Option String := r.values.lookup s

def allValues (r : Reading) (s : Switch) : List String :=
  (r.values.filter (·.1 = s)).map (·.2)

def setValue (r : Reading) (s : Switch) (text : String) : Except Stop Reading :=
  if (r.value? s).isSome && !s.isRepeatable then .error .argumentConflict
  else if text = "" && s.isPath then .error .invalidValue
  else .ok { r with values := r.values ++ [(s, text)] }

def setFlag (r : Reading) (s : Switch) : Except Stop Reading :=
  match s with
  | .help => .error .displayHelp
  | .version => .error .displayVersion
  | s => if r.has s then .error .argumentConflict else .ok { r with flags := s :: r.flags }

def settle (r : Reading) : Except Stop Reading :=
  let settled := { r with pending := .nothing }
  match r.pending with
  | .nothing => .ok r
  | .value _ none => .error .invalidValue
  | .value s (some text) => settled.setValue s text
  | .paths texts =>
    if texts.contains "" then .error .invalidValue
    else .ok { settled with paths := r.paths ++ texts }

/-- A switch that takes a value, with the value if it stands in the same argument. -/
def takeValue (r : Reading) (s : Switch) (text : Option String) : Except Stop Reading := do
  let r ← r.settle
  match text with
  | some text => r.setValue s text
  | none => return { r with pending := .value s none }

def takePath (scope : Scope) (r : Reading) (text : String) : Except Stop Reading :=
  match scope, r.pending with
  | .transform, .paths texts => .ok { r with pending := .paths (texts ++ [text]) }
  | .transform, _ => do
    let r ← r.settle
    return { r with pending := .paths [text] }
  | _, _ => .error .unknownArgument

def takeLong (scope : Scope) (r : Reading) (cs : List Char) : Except Stop Reading :=
  let name := String.ofList (cs.takeWhile (· ≠ '='))
  let text := match cs.dropWhile (· ≠ '=') with
    | _ :: rest => some (String.ofList rest)
    | [] => none
  match scope.findLong? name with
  | none => .error .unknownArgument
  | some s =>
    if s.takesValue then r.takeValue s text
    else if text.isSome then .error .tooManyValues
    else do (← r.settle).setFlag s

/-- Switches by their letters. One that takes a value has the rest of the letters for it, without
an equals sign before them. -/
def takeShort (scope : Scope) (r : Reading) : List Char → Except Stop Reading
  | [] => .ok r
  | c :: rest =>
    match scope.findShort? c with
    | none => .error .unknownArgument
    | some s =>
      if s.takesValue then
        r.takeValue s (match rest with
          | [] => none
          | '=' :: text => some (String.ofList text)
          | text => some (String.ofList text))
      else do takeShort scope (← (← r.settle).setFlag s) rest

/-- An argument that starts with a dash and is more than one, as switches. -/
def takeSwitch? (scope : Scope) (r : Reading) (argument : String) :
    Option (Except Stop Reading) :=
  match argument.toList with
  | '-' :: '-' :: cs => some (r.takeLong scope cs)
  | '-' :: c :: cs => some (r.takeShort scope (c :: cs))
  | _ => none

def takeArgument (scope : Scope) (r : Reading) (argument : String) : Except Stop Reading :=
  match r.takeSwitch? scope argument, r.pending with
  | some result, _ => result
  | none, .value s none => .ok { r with pending := .value s (some argument) }
  | none, _ => r.takePath scope argument

/-- Reads the arguments of a command. After two lone dashes all are paths. -/
def takeAll (scope : Scope) (r : Reading) : List String → Except Stop Reading
  | [] => r.settle
  | argument :: rest =>
    if argument = "--" then do (← rest.foldlM (takePath scope) r).settle
    else do takeAll scope (← r.takeArgument scope argument) rest

end Reading

structure TransformOptions where
  settings : Settings
  extensions : List String
  output : Option String
  paths : List String

inductive Command
  | directive (name : String)
  | transform (options : TransformOptions)

structure Invocation where
  verbose : Bool
  command : Option Command

/-- The extensions of schema files, unless others are wanted. -/
def defaultExtensions : List String := ["graphql", "graphqls"]

namespace Reading

def directiveName (r : Reading) : String := (r.value? .directiveName).getD Settings.default.marker

def cacheHints (r : Reading) : Option CacheHints :=
  if r.has .cacheHints then
    some ⟨(r.value? .cacheHintDirective).getD CacheHints.default.directive,
      (r.value? .cacheHintArgument).getD CacheHints.default.argument⟩
  else none

/-- Each value names extensions with commas between them. -/
def extensions (r : Reading) : List String :=
  match r.allValues .extensions with
  | [] => defaultExtensions
  | texts => texts.flatMap (Path.split ',')

def transformOptions (r : Reading) : Except Stop TransformOptions :=
  if r.paths.isEmpty then .error .missingRequiredArgument
  else .ok ⟨⟨r.directiveName, r.cacheHints⟩, r.extensions, r.value? .output, r.paths⟩

end Reading

def commandNames : List String := ["directive", "transform", "help"]

/-- Help is there for each command, and commands have no commands of their own. -/
def helpFor : List String → Stop
  | [] => .displayHelp
  | [name] => if commandNames.contains name then .displayHelp else .invalidSubcommand
  | _ => .invalidSubcommand

/-- What a name and the arguments after it command, if it is the name of a command. -/
def command? (name : String) (arguments : List String) : Option (Except Stop Command) :=
  match name with
  | "directive" => some do
    let r ← Reading.empty.takeAll .directive arguments
    return .directive r.directiveName
  | "transform" => some do
    let r ← Reading.empty.takeAll .transform arguments
    return .transform (← r.transformOptions)
  | "help" => some (.error (helpFor arguments))
  | _ => none

/-- After two lone dashes no command can be named. -/
def afterDashes (r : Reading) : List String → Except Stop Invocation
  | [] => .ok ⟨r.has .verbose, none⟩
  | name :: _ =>
    .error (if commandNames.contains name then .unknownArgument else .invalidSubcommand)

def readFrom (r : Reading) : List String → Except Stop Invocation
  | [] => .ok ⟨r.has .verbose, none⟩
  | argument :: rest =>
    match command? argument rest with
    | some command => do return ⟨r.has .verbose, some (← command)⟩
    | none =>
      if argument = "--" then afterDashes r rest
      else
        match r.takeSwitch? .top argument with
        | some result => do readFrom (← result) rest
        | none => .error .invalidSubcommand

def read (arguments : List String) : Except Stop Invocation := readFrom .empty arguments

end PagedSchema.CommandLine
