/-
Definitions written in the schema language: two spaces of indentation, one empty line between
definitions.
-/
import PagedSchema.Decimal
import PagedSchema.Schema
import PagedSchema.Sdl.StringLiteral

namespace PagedSchema.Sdl

open Text (lines)

/-- Whether a literal may hold the character as it is, line feeds and tabs apart. -/
def isPlain (c : Char) : Bool := 0x20 ≤ c.toNat && c.toNat ≤ 0xFFFF

def isLayout (c : Char) : Bool := c = '\n' || c = '\r' || c = '\t'

def paddedDecimal (n : Nat) : List Char :=
  let digits := Nat.toDigits 10 n
  List.replicate (4 - digits.length) '0' ++ digits

def escapeChar (c : Char) : List Char :=
  match c with
  | '\r' => ['\\', 'r']
  | '\n' => ['\\', 'n']
  | '\t' => ['\\', 't']
  | '"' => ['\\', '"']
  | '\\' => ['\\', '\\']
  | c => if isPlain c then [c] else '\\' :: 'u' :: paddedDecimal c.toNat

/-- Three quotes inside a block have a backslash before them. -/
def escapeQuotes : List Char → List Char
  | [] => []
  | '"' :: '"' :: '"' :: rest => '\\' :: '"' :: '"' :: '"' :: escapeQuotes rest
  | c :: rest => c :: escapeQuotes rest

def spaces (n : Nat) : String := String.ofList (List.replicate n ' ')

/-- A line of a block. A blank one has no indentation. -/
def blockLine (indent : Nat) (line : List Char) : String :=
  if isBlankLine line then "\n" else spaces indent ++ String.ofList (escapeQuotes line) ++ "\n"

/-- A text of several lines is written as a block, unless a character needs an escape. -/
def printString (indent : Nat) (text : String) : String :=
  let cs := text.toList
  if cs.contains '\n' && cs.all fun c => isPlain c || isLayout c then
    "\"\"\"\n" ++ String.join ((lines cs).map (blockLine (indent + 2))) ++ spaces indent ++ "\"\"\""
  else "\"" ++ String.ofList (cs.flatMap escapeChar) ++ "\""

mutual

def printValue (indent : Nat) : Value → String
  | .variable name => "$" ++ name
  | .int n => toString n
  | .float x => x.print
  | .string text => printString indent text
  | .boolean b => if b then "true" else "false"
  | .null => "null"
  | .enum name => name
  | .list items => "[" ++ ", ".intercalate (printItems indent items) ++ "]"
  | .object fields => "\x7b" ++ ", ".intercalate (printEntries indent fields) ++ "\x7d"

def printItems (indent : Nat) : List Value → List String
  | [] => []
  | v :: rest => printValue indent v :: printItems indent rest

def printEntries (indent : Nat) : List (String × Value) → List String
  | [] => []
  | (name, v) :: rest => (name ++ ": " ++ printValue indent v) :: printEntries indent rest

end

def parenthesized (items : List String) : String :=
  if items.isEmpty then "" else "(" ++ ", ".intercalate items ++ ")"

def printDirective (indent : Nat) (d : Directive) : String :=
  "@" ++ d.name ++ parenthesized (printEntries indent d.arguments)

def printDirectives (indent : Nat) (ds : List Directive) : String :=
  String.join (ds.map fun d => " " ++ printDirective indent d)

/-- A description on lines of its own. -/
def descriptionLines (indent : Nat) : Option String → String
  | some text => spaces indent ++ printString indent text ++ "\n"
  | none => ""

/-- A description on the line of what it describes. -/
def inlineDescription (indent : Nat) : Option String → String
  | some text => printString indent text ++ " "
  | none => ""

def printInputValue (indent : Nat) (v : InputValue) : String :=
  inlineDescription indent v.description ++ v.name ++ ": " ++ v.type.print ++
    (v.default.map fun d => " = " ++ printValue indent d).getD "" ++
    printDirectives indent v.directives

def printArguments (indent : Nat) (arguments : List InputValue) : String :=
  parenthesized (arguments.map (printInputValue indent))

def blockIndent : Nat := 2

def printField (f : Field) : String :=
  descriptionLines blockIndent f.description ++ spaces blockIndent ++ f.name ++
    printArguments blockIndent f.arguments ++ ": " ++ f.type.print ++
    printDirectives blockIndent f.directives ++ "\n"

def printEnumValue (v : EnumValue) : String :=
  spaces blockIndent ++ inlineDescription blockIndent v.description ++ v.name ++
    printDirectives blockIndent v.directives ++ "\n"

def printInputField (v : InputValue) : String :=
  spaces blockIndent ++ printInputValue blockIndent v ++ "\n"

def braced (members : List String) : String := " \x7b\n" ++ String.join members ++ "\x7d\n"

/-- Members in braces, or only the end of the line for none. -/
def bracedIfAny (members : List String) : String :=
  if members.isEmpty then "\n" else braced members

/-- Names with a separator between each two, or nothing for none. -/
def listed (before separator : String) (names : List String) : String :=
  if names.isEmpty then "" else before ++ separator.intercalate names

def typeKeyword : TypeBody → String
  | .scalar => "scalar"
  | .output .object _ _ => "type"
  | .output .interface _ _ => "interface"
  | .union _ => "union"
  | .enum _ => "enum"
  | .input _ => "input"

def printTypeBody (directives : String) : TypeBody → String
  | .scalar => directives ++ "\n"
  | .output _ interfaces fields =>
    listed " implements " " & " interfaces ++ directives ++ bracedIfAny (fields.map printField)
  | .union members => directives ++ listed " = " " | " members ++ "\n"
  | .enum values => directives ++ bracedIfAny (values.map printEnumValue)
  | .input fields => directives ++ bracedIfAny (fields.map printInputField)

def printTypeDecl (d : TypeDecl) : String :=
  (match d.role with
    | .definition description => descriptionLines 0 description
    | .extension => "extend ") ++
    typeKeyword d.body ++ " " ++ d.name ++ printTypeBody (printDirectives 0 d.directives) d.body

def printDirectiveDecl (d : DirectiveDecl) : String :=
  descriptionLines 0 d.description ++ "directive @" ++ d.name ++ printArguments 0 d.arguments ++
    (if d.repeatable then " repeatable" else "") ++
    listed " on " " | " (d.places.map (·.name)) ++ "\n"

def printSchemaDecl (d : SchemaDecl) : String :=
  let operation (name : String) (type : Option String) : List String :=
    (type.map fun t => spaces blockIndent ++ name ++ ": " ++ t ++ "\n").toList
  "schema" ++ printDirectives 0 d.directives ++
    braced (operation "query" d.query ++ operation "mutation" d.mutation ++
      operation "subscription" d.subscription)

def printDefinition : Definition → String
  | .schema d => printSchemaDecl d
  | .directive d => printDirectiveDecl d
  | .type d => printTypeDecl d

def print (definitions : List Definition) : String :=
  "\n".intercalate (definitions.map printDefinition)

end PagedSchema.Sdl
