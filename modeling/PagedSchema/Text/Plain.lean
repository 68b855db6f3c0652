/-
Plain text: how bytes encode it, its lines, and the blank characters that it may end in.
-/

namespace PagedSchema.Text

/-- The first character of `bytes` and how many bytes hold it: the shortest form only, no
surrogate, nothing above U+10FFFF. -/
def firstChar? (bytes : List UInt8) : Option (Char × Nat) :=
  let tail (low high : Nat) (b : UInt8) : Bool := low ≤ b.toNat && b.toNat ≤ high
  match bytes with
  | [] => none
  | a :: rest =>
    let a := a.toNat
    if a < 0x80 then some (Char.ofNat a, 1)
    else if a < 0xC2 then none
    else if a < 0xE0 then
      match rest with
      | b :: _ =>
        if tail 0x80 0xBF b then some (Char.ofNat (a % 32 * 64 + b.toNat % 64), 2) else none
      | _ => none
    else if a < 0xF0 then
      match rest with
      | b :: c :: _ =>
        if tail (if a = 0xE0 then 0xA0 else 0x80) (if a = 0xED then 0x9F else 0xBF) b &&
            tail 0x80 0xBF c then
          some (Char.ofNat ((a % 16 * 64 + b.toNat % 64) * 64 + c.toNat % 64), 3)
        else none
      | _ => none
    else if a < 0xF5 then
      match rest with
      | b :: c :: d :: _ =>
        if tail (if a = 0xF0 then 0x90 else 0x80) (if a = 0xF4 then 0x8F else 0xBF) b &&
            tail 0x80 0xBF c && tail 0x80 0xBF d then
          some (Char.ofNat (((a % 8 * 64 + b.toNat % 64) * 64 + c.toNat % 64) * 64 +
            d.toNat % 64), 4)
        else none
      | _ => none
    else none

/-- Reads `bytes`, of which `owed` belong to the last character of `text`; `text` has its last
character first, and `read` counts the bytes of it. -/
def decodeFrom (owed read : Nat) (text : List Char) : List UInt8 → Except Nat (List Char)
  | [] => .ok text.reverse
  | b :: rest =>
    match owed with
    | owed + 1 => decodeFrom owed read text rest
    | 0 =>
      match firstChar? (b :: rest) with
      | some (c, width) => decodeFrom (width - 1) (read + width) (c :: text) rest
      | none => .error read

/-- The text that `bytes` encode; if they encode none, how many of them are valid. -/
def decode (bytes : List UInt8) : Except Nat String :=
  (decodeFrom 0 0 [] bytes).map String.ofList

/-- The lines of `cs`, of which the characters in `line`, last one first, are read already. -/
def linesFrom (line : List Char) : List Char → List (List Char)
  | [] => if line.isEmpty then [] else [line.reverse]
  | c :: rest =>
    if c = '\n' then
      (match line with
        | '\r' :: before => before.reverse
        | _ => line.reverse) :: linesFrom [] rest
    else linesFrom (c :: line) rest

def lines (cs : List Char) : List (List Char) := linesFrom [] cs

def joinLines (ls : List (List Char)) : List Char := List.intercalate ['\n'] ls

/-- The code points of the White_Space property. -/
def blankPoints : List Nat :=
  [0x09, 0x0A, 0x0B, 0x0C, 0x0D, 0x20, 0x85, 0xA0, 0x1680, 0x2000, 0x2001, 0x2002, 0x2003,
   0x2004, 0x2005, 0x2006, 0x2007, 0x2008, 0x2009, 0x200A, 0x2028, 0x2029, 0x202F, 0x205F,
   0x3000]

def isBlank (c : Char) : Bool := blankPoints.contains c.toNat

def dropTrailingBlanks (cs : List Char) : List Char :=
  (cs.reverse.dropWhile isBlank).reverse

def trimEnd (s : String) : String := String.ofList (dropTrailingBlanks s.toList)

end PagedSchema.Text
