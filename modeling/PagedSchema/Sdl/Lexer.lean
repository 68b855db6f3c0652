/-
Tokens of the schema language and the numerals among them, and the stream of tokens that a text
holds. Between them stand white space, commas, comments and byte order marks.
-/
import PagedSchema.Decimal
import PagedSchema.Schema
import PagedSchema.Sdl.StringLiteral

namespace PagedSchema.Sdl

inductive Punctuator
  | bang | dollar | leftParen | rightParen | ellipsis | colon | equals | at
  | leftBracket | rightBracket | leftBrace | bar | rightBrace | ampersand
deriving DecidableEq

def Punctuator.ofChar? : Char → Option Punctuator
  | '!' => some .bang
  | '$' => some .dollar
  | '(' => some .leftParen
  | ')' => some .rightParen
  | ':' => some .colon
  | '=' => some .equals
  | '@' => some .at
  | '[' => some .leftBracket
  | ']' => some .rightBracket
  | '\x7b' => some .leftBrace
  | '|' => some .bar
  | '\x7d' => some .rightBrace
  | '&' => some .ampersand
  | _ => none

/-- Numbers and strings stand as the values they denote. -/
inductive Token
  | punctuator (p : Punctuator)
  | name (text : String)
  | int (n : Int)
  | float (x : Decimal.Binary64)
  | string (text : String)
deriving DecidableEq

/-- Tokens with their positions, up to the end of the text or to the first part of it that is no
token. -/
inductive Tokens
  | done (position : Position)
  | unreadable (position : Position)
  | cons (position : Position) (token : Token) (rest : Tokens)
deriving DecidableEq

namespace Tokens

def position : Tokens → Position
  | done p => p
  | unreadable p => p
  | cons p _ _ => p

def head? : Tokens → Option Token
  | cons _ token _ => some token
  | _ => none

def length : Tokens → Nat
  | cons _ _ rest => rest.length + 1
  | _ => 0

end Tokens

open Decimal (Binary64)

def natOfDigits (digits : List Char) : Nat :=
  digits.foldl (fun n d => 10 * n + (d.toNat - '0'.toNat)) 0

/-- Whether digits are a whole part: some, and no zero before others. -/
def isWholePart : List Char → Bool
  | [] => false
  | ['0'] => true
  | d :: _ => d ≠ '0'

def splitMinus : List Char → Bool × List Char
  | '-' :: rest => (true, rest)
  | cs => (false, cs)

def signed (negative : Bool) (n : Nat) : Int := if negative then -n else n

def fitsInt64 (n : Int) : Bool := -9223372036854775808 ≤ n && n < 9223372036854775808

def int? (cs : List Char) : Option Token :=
  let (negative, digits) := splitMinus cs
  let n := signed negative (natOfDigits digits)
  if digits.all Char.isDigit && isWholePart digits && fitsInt64 n then some (.int n) else none

/-- The exponent that ends a numeral. Without a sign it starts with none of `0` and `9`. -/
def exponent? : List Char → Option Int
  | [] => some 0
  | mark :: cs =>
    if mark ≠ 'e' && mark ≠ 'E' then none
    else match cs with
      | [] => none
      | sign :: digits =>
        if sign = '+' || sign = '-' then
          if !digits.isEmpty && digits.all Char.isDigit then
            some (signed (sign = '-') (natOfDigits digits))
          else none
        else if cs.all Char.isDigit && sign ≠ '0' && sign ≠ '9' then some (natOfDigits cs)
        else none

/-- The digits after a point, if there is one, and what follows them. -/
def splitFraction? : List Char → Option (List Char × List Char)
  | '.' :: cs =>
    let digits := cs.takeWhile Char.isDigit
    if digits.isEmpty then none else some (digits, cs.dropWhile Char.isDigit)
  | cs => some ([], cs)

def float? (cs : List Char) : Option Token := do
  let (negative, cs) := splitMinus cs
  let whole := cs.takeWhile Char.isDigit
  guard (isWholePart whole)
  let (fraction, cs) ← splitFraction? (cs.dropWhile Char.isDigit)
  let exponent ← exponent? cs
  some (.float (Binary64.ofDecimal negative (natOfDigits (whole ++ fraction))
    (exponent - fraction.length)))

def hasFractionMark (cs : List Char) : Bool :=
  (cs.drop 1).any fun c => c = '.' || c = 'e' || c = 'E'

def numeral? (cs : List Char) : Option Token :=
  if hasFractionMark cs then float? cs else int? cs

/-- Brackets of all kinds nest no deeper. -/
def maxNesting : Nat := 50

def isNameStart (c : Char) : Bool := c = '_' || c.isAlpha

def isNameChar (c : Char) : Bool := c = '_' || c.isAlphanum

def endsNumeral (c : Char) : Bool :=
  [' ', '\n', '\r', '\t', ',', '#'].contains c || (Punctuator.ofChar? c).isSome

/-- What stands at one place of a text, with its length and the position after it. -/
inductive Piece
  | gap (length : Nat) (next : Position)
  | token (t : Token) (length : Nat) (next : Position)
  | unreadable

def afterBlock (p : Position) (body : List Char) : Position :=
  let breaks := body.count '\n'
  if breaks = 0 then p.right (body.length + 6)
  else ⟨p.line + breaks, (body.reverse.takeWhile (· ≠ '\n')).length + 4⟩

/-- A comment goes on to the next line feed or carriage return, and over it. One that the text
ends in moves no position. -/
def comment (p : Position) (rest : List Char) : Piece :=
  let text := rest.takeWhile fun c => c ≠ '\n' && c ≠ '\r'
  if text.length = rest.length then .gap (text.length + 1) p
  else .gap (text.length + 2) p.nextLine

def stringLiteral (p : Position) (rest : List Char) : Piece :=
  match rest with
  | '"' :: '"' :: body =>
    match readBlock false [] body with
    | some body =>
      .token (.string (String.ofList (blockText body))) (body.length + 6) (afterBlock p body)
    | none => .unreadable
  | _ =>
    match readQuoted [] 1 rest with
    | some (text, length) => .token (.string (String.ofList text)) length (p.right length)
    | none => .unreadable

def piece (p : Position) (c : Char) (rest : List Char) : Piece :=
  match c with
  | '\uFEFF' | '\r' => .gap 1 p
  | '\t' => .gap 1 (p.right 8)
  | '\n' => .gap 1 p.nextLine
  | ' ' | ',' => .gap 1 (p.right 1)
  | '#' => comment p rest
  | '"' => stringLiteral p rest
  | '.' =>
    match rest with
    | '.' :: '.' :: _ => .token (.punctuator .ellipsis) 3 (p.right 3)
    | _ => .unreadable
  | c =>
    if isNameStart c then
      let text := c :: rest.takeWhile isNameChar
      .token (.name (String.ofList text)) text.length (p.right text.length)
    else if c = '-' || c.isDigit then
      let text := c :: rest.takeWhile (!endsNumeral ·)
      match numeral? text with
      | some t => .token t text.length (p.right text.length)
      | none => .unreadable
    else
      match Punctuator.ofChar? c with
      | some punctuator => .token (.punctuator punctuator) 1 (p.right 1)
      | none => .unreadable

/-- How many brackets may still be opened after a token, if the token itself may stand. -/
def roomAfter? (room : Nat) : Token → Option Nat
  | .punctuator .leftParen | .punctuator .leftBracket | .punctuator .leftBrace =>
    if room = 0 then none else some (room - 1)
  | .punctuator .rightParen | .punctuator .rightBracket | .punctuator .rightBrace =>
    some (room + 1)
  | _ => some room

/-- The tokens of a text of which the first `owed` characters belong to a piece that is read. -/
def tokensFrom (owed : Nat) (p : Position) (room : Nat) : List Char → Tokens
  | [] => .done p
  | c :: rest =>
    match owed with
    | owed + 1 => tokensFrom owed p room rest
    | 0 =>
      match piece p c rest with
      | .gap length next => tokensFrom (length - 1) next room rest
      | .token t length next =>
        match roomAfter? room t with
        | some room => .cons p t (tokensFrom (length - 1) next room rest)
        | none => .unreadable p
      | .unreadable => .unreadable p

def tokens (text : String) : Tokens := tokensFrom 0 ⟨1, 1⟩ maxNesting text.toList

end PagedSchema.Sdl
