/-
String literals: on one line with escapes, or as blocks whose common indentation is no part of
the text.
-/
import PagedSchema.Text.Plain

namespace PagedSchema.Sdl

open Text (isBlank lines joinLines)

def hexValue? (c : Char) : Option Nat :=
  if c.isDigit then some (c.toNat - '0'.toNat)
  else if 'a' ≤ c && c ≤ 'f' then some (c.toNat - 'a'.toNat + 10)
  else if 'A' ≤ c && c ≤ 'F' then some (c.toNat - 'A'.toNat + 10)
  else none

def hexNumber? (cs : List Char) : Option Nat := do
  let digits := match cs with
    | '+' :: rest => rest
    | cs => cs
  let values ← digits.mapM hexValue?
  return values.foldl (16 * · + ·) 0

/-- The character of the four characters of an escape. Half a surrogate pair is none. -/
def unicodeEscape? (cs : List Char) : Option Char := do
  let n ← hexNumber? cs
  if n.isValidChar then some (Char.ofNat n) else none

def simpleEscape? : Char → Option Char
  | '"' => some '"'
  | '\\' => some '\\'
  | '/' => some '/'
  | 'b' => some '\x10'
  | 'f' => some '\x0c'
  | 'n' => some '\n'
  | 'r' => some '\r'
  | 't' => some '\t'
  | _ => none

/-- Reads on to the quote that closes the literal. `text` has its last character first, and
`length` counts what is read; the answer counts the quote too. -/
def readQuoted (text : List Char) (length : Nat) : List Char → Option (List Char × Nat)
  | [] => none
  | '"' :: _ => some (text.reverse, length + 1)
  | '\n' :: _ => none
  | '\\' :: 'u' :: a :: b :: c :: d :: rest =>
    match unicodeEscape? [a, b, c, d] with
    | some x => readQuoted (x :: text) (length + 6) rest
    | none => none
  | '\\' :: e :: rest =>
    match simpleEscape? e with
    | some x => readQuoted (x :: text) (length + 2) rest
    | none => none
  | c :: rest => if c = '\\' then none else readQuoted (c :: text) (length + 1) rest

/-- Reads on to the three quotes that close a block, which no backslash stands before. `body` has
its last character first. -/
def readBlock (escaped : Bool) (body : List Char) : List Char → Option (List Char)
  | [] => none
  | '"' :: '"' :: '"' :: rest =>
    if escaped then readBlock false ('"' :: '"' :: '"' :: body) rest else some body.reverse
  | c :: rest => readBlock (c = '\\') (c :: body) rest

/-- Three quotes after a backslash stand for themselves. -/
def unescapeQuotes : List Char → List Char
  | [] => []
  | '\\' :: '"' :: '"' :: '"' :: rest => '"' :: '"' :: '"' :: unescapeQuotes rest
  | c :: rest => c :: unescapeQuotes rest

def byteWidth (cs : List Char) : Nat := cs.foldr (fun c width => c.utf8Size + width) 0

def indentation (line : List Char) : Nat := byteWidth (line.takeWhile isBlank)

def dropBytes (width : Nat) : List Char → List Char
  | [] => []
  | c :: rest => if c.utf8Size ≤ width then dropBytes (width - c.utf8Size) rest else c :: rest

def dropIndentation (width : Nat) (line : List Char) : List Char :=
  if width ≤ byteWidth line then dropBytes width line else line

def isBlankLine (line : List Char) : Bool := line.all isBlank

def trimBlankLines (ls : List (List Char)) : List (List Char) :=
  ((ls.dropWhile isBlankLine).reverse.dropWhile isBlankLine).reverse

/-- Without the indentation that the lines after the first one share. Blank lines do not count. -/
def dropCommonIndentation : List (List Char) → List (List Char)
  | [] => []
  | first :: rest =>
    match ((rest.filter (!isBlankLine ·)).map indentation).min? with
    | some width => first :: rest.map (dropIndentation width)
    | none => first :: rest

def blockText (body : List Char) : List Char :=
  joinLines ((trimBlankLines (dropCommonIndentation (lines body))).map unescapeQuotes)

end PagedSchema.Sdl
