/-
Parsers of token streams, and the grammar of the schema language from tokens to definitions. A
parser that fails names the position of the first token that it cannot take; one token of lookahead
decides every choice.
-/
import PagedSchema.Schema
import PagedSchema.Sdl.Lexer

namespace PagedSchema.Sdl

abbrev Parser := StateT Tokens (Except Position)

namespace Parser

variable {α : Type}

def fail : Parser α := fun ts => .error ts.position

def peek? : Parser (Option Token) := fun ts => .ok (ts.head?, ts)

def position : Parser Position := fun ts => .ok (ts.position, ts)

def take (f : Token → Option α) : Parser α
  | .cons p token rest =>
    match f token with
    | some a => .ok (a, rest)
    | none => .error p
  | ts => .error ts.position

def accept (token : Token) : Parser Bool
  | .cons p t rest => if t = token then .ok (true, rest) else .ok (false, .cons p t rest)
  | ts => .ok (false, ts)

def expect (token : Token) : Parser Unit := take fun t => if t = token then some () else none

def name : Parser String := take fun
  | .name text => some text
  | _ => none

/-- Items as long as the next token is one that `starts` them, `bound` of them at most. -/
def manyUpTo (starts : Token → Bool) (item : Parser α) : Nat → Parser (List α)
  | 0 => pure []
  | bound + 1 => do
    if (← peek?).any starts then
      let a ← item
      let as ← manyUpTo starts item bound
      return a :: as
    else return []

/-- Items as long as the next token is one that `starts` them. An item takes at least one token,
so there are no more items than tokens. -/
def many (starts : Token → Bool) (item : Parser α) : Parser (List α) := do
  manyUpTo starts item (← get).length

def many1 (starts : Token → Bool) (item : Parser α) : Parser (List α) := do
  let a ← item
  let as ← many starts item
  return a :: as

def many1Until (close : Punctuator) (item : Parser α) : Parser (List α) := do
  let as ← many1 (· ≠ .punctuator close) item
  expect (.punctuator close)
  return as

def manyUntil (close : Punctuator) (item : Parser α) : Parser (List α) := do
  let as ← many (· ≠ .punctuator close) item
  expect (.punctuator close)
  return as

/-- The items after an opening token up to a closing one, or none. -/
def group (opening close : Punctuator) (item : Parser α) : Parser (List α) := do
  if ← accept (.punctuator opening) then many1Until close item else return []

/-- Items with a separator between each two; one more may stand before the first. -/
def separated (separator : Punctuator) (item : Parser α) : Parser (List α) := do
  let _ ← accept (.punctuator separator)
  let a ← item
  let as ← many (· = .punctuator separator) do
    expect (.punctuator separator)
    item
  return a :: as

end Parser

namespace Grammar

open PagedSchema.Sdl.Parser

def description : Parser (Option String) := do
  match ← peek? with
  | some (.string text) => take fun _ => some (some text)
  | _ => return none

def keyword (text : String) : Parser Unit := expect (.name text)

/-- A type reference with fewer than `nesting` lists around its name. -/
def typeRef : Nat → Parser TypeRef
  | 0 => fail
  | nesting + 1 => do
    let inner ←
      if ← accept (.punctuator .leftBracket) then
        let item ← typeRef nesting
        expect (.punctuator .rightBracket)
        pure (.list item)
      else .named <$> name
    return if ← accept (.punctuator .bang) then .nonNull inner else inner

/-- Puts a field at its place in the order of names; of two with one name the later stays. -/
def insertField (name : String) (v : Value) : List (String × Value) → List (String × Value)
  | [] => [(name, v)]
  | (name', v') :: rest =>
    if name = name' then (name, v) :: rest
    else if name < name' then (name, v) :: (name', v') :: rest
    else (name', v') :: insertField name v rest

def sortFields (fields : List (String × Value)) : List (String × Value) :=
  fields.foldl (fun sorted (name, v) => insertField name v sorted) []

def named {α : Type} (item : Parser α) : Parser (String × α) := do
  let n ← name
  expect (.punctuator .colon)
  return (n, ← item)

def literal? : Token → Option Value
  | .name "true" => some (.boolean true)
  | .name "false" => some (.boolean false)
  | .name "null" => some .null
  | .name text => some (.enum text)
  | .int n => some (.int n)
  | .float x => some (.float x)
  | .string text => some (.string text)
  | .punctuator _ => none

/-- A value with fewer than `nesting` lists and objects around each part; a constant one holds no
variables. -/
def value (constant : Bool) : Nat → Parser Value
  | 0 => fail
  | nesting + 1 => do
    if ← accept (.punctuator .leftBracket) then
      .list <$> manyUntil .rightBracket (value constant nesting)
    else if ← accept (.punctuator .leftBrace) then
      (.object ∘ sortFields) <$> manyUntil .rightBrace (named (value constant nesting))
    else if !constant && (← peek?) = some (.punctuator .dollar) then
      expect (.punctuator .dollar)
      .variable <$> name
    else take literal?

/-- The lexer opens no more than `maxNesting` brackets, so this bound is never met. -/
def nestingBound : Nat := maxNesting + 1

def directive : Parser Directive := do
  let p ← position
  expect (.punctuator .at)
  let n ← name
  let arguments ← group .leftParen .rightParen (named (value false nestingBound))
  return ⟨p, n, arguments⟩

def directives : Parser (List Directive) := many (· = .punctuator .at) directive

def inputValue : Parser InputValue := do
  let p ← position
  let text ← description
  let (n, type) ← named (typeRef nestingBound)
  let default ←
    if ← accept (.punctuator .equals) then some <$> value true nestingBound else pure none
  return ⟨p, text, n, type, default, ← directives⟩

def arguments : Parser (List InputValue) := group .leftParen .rightParen inputValue

def field : Parser Field := do
  let p ← position
  let text ← description
  let n ← name
  let args ← arguments
  expect (.punctuator .colon)
  let type ← typeRef nestingBound
  return ⟨p, text, n, args, type, ← directives⟩

def enumValue : Parser EnumValue := do
  let p ← position
  let text ← description
  let n ← name
  return ⟨p, text, n, ← directives⟩

def interfaces : Parser (List String) := do
  if ← accept (.name "implements") then separated .ampersand name else return []

/-- What stands after the name of a type: its directives and its body. -/
def typeContent : String → Option (Parser (List Directive × TypeBody))
  | "scalar" => some do return (← directives, .scalar)
  | "type" => some (output .object)
  | "interface" => some (output .interface)
  | "union" => some do
    let ds ← directives
    let members ←
      if ← accept (.punctuator .equals) then separated .bar name else pure []
    return (ds, .union members)
  | "enum" => some do
    let ds ← directives
    return (ds, .enum (← group .leftBrace .rightBrace enumValue))
  | "input" => some do
    let ds ← directives
    return (ds, .input (← group .leftBrace .rightBrace inputValue))
  | _ => none
where
  output (kind : OutputKind) : Parser (List Directive × TypeBody) := do
    let names ← interfaces
    let ds ← directives
    return (ds, .output kind names (← group .leftBrace .rightBrace field))

def typeDecl (role : Role) : Parser TypeDecl := do
  let p ← position
  let content ← take fun
    | .name text => typeContent text
    | _ => none
  let n ← name
  let (ds, body) ← content
  return ⟨role, p, n, ds, body⟩

/-- Whether an extension adds nothing. The interfaces of an interface do not count. -/
def addsNothing (d : TypeDecl) : Bool :=
  d.directives.isEmpty && match d.body with
    | .scalar => true
    | .output .object names fields => names.isEmpty && fields.isEmpty
    | .output .interface _ fields => fields.isEmpty
    | .union members => members.isEmpty
    | .enum values => values.isEmpty
    | .input fields => fields.isEmpty

def typeExtension : Parser TypeDecl := do
  keyword "extend"
  let d ← typeDecl .extension
  if addsNothing d then throw d.position
  return d

def place : Parser DirectivePlace := take fun
  | .name text => DirectivePlace.ofName? text
  | _ => none

def startsPlaces : Token → Bool
  | .name _ => true
  | token => token = .punctuator .bar

def directiveDecl (text : Option String) : Parser DirectiveDecl := do
  let p ← position
  keyword "directive"
  expect (.punctuator .at)
  let n ← name
  let args ← arguments
  let repeatable ← accept (.name "repeatable")
  keyword "on"
  let places ← if (← peek?).any startsPlaces then separated .bar place else pure []
  return ⟨p, text, n, args, repeatable, places⟩

/-- Adds a root operation, unless it is unknown or has its type already. -/
def addOperation? (d : SchemaDecl) : String × String → Option SchemaDecl
  | ("query", type) => if d.query.isNone then some { d with query := type } else none
  | ("mutation", type) => if d.mutation.isNone then some { d with mutation := type } else none
  | ("subscription", type) =>
    if d.subscription.isNone then some { d with subscription := type } else none
  | _ => none

def schemaDecl : Parser SchemaDecl := do
  let p ← position
  keyword "schema"
  let ds ← directives
  expect (.punctuator .leftBrace)
  let operations ← manyUntil .rightBrace (named name)
  match operations.foldlM addOperation? ⟨p, ds, none, none, none⟩ with
  | some d => return d
  | none => throw p

def definition : Parser Definition := do
  match ← peek? with
  | some (.name "schema") => .schema <$> schemaDecl
  | some (.name "extend") => .type <$> typeExtension
  | _ =>
    let text ← description
    if (← peek?) = some (.name "directive") then .directive <$> directiveDecl text
    else .type <$> typeDecl (.definition text)

def endOfText : Parser Unit
  | .done p => .ok ((), .done p)
  | ts => .error ts.position

def document : Parser (List Definition) := do
  let ds ← many1 (fun _ => true) definition
  endOfText
  return ds

end Grammar

/-- The definitions that a text holds, or the position where it stops being a schema. -/
def parse (text : String) : Except Position (List Definition) :=
  (Grammar.document.run (tokens text)).map (·.1)

/-- The first line of what a parse error says. The lines after it, which name the token found and
those expected, are left out. -/
def parseErrorMessage (p : Position) : String :=
  s!"schema parse error: Parse error at {p.line}:{p.column}"

end PagedSchema.Sdl
