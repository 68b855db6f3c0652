/-
Binary numbers of double precision: the one nearest to a decimal, and the shortest decimal that
reads back to one, in positional notation.
-/

namespace PagedSchema.Decimal

/-- `finite negative m q` is `m * 2 ^ q` with its sign. The significand `m` is below `2 ^ 53`, and
`q` is as small as the format and the 53 bits of `m` allow. -/
inductive Binary64
  | finite (negative : Bool) (significand : Nat) (exponent : Int)
  | infinite (negative : Bool)
deriving DecidableEq

namespace Binary64

def precision : Nat := 53

def minExponent : Int := -1074

def maxExponent : Int := 971

end Binary64

def roundHalfEven (num den : Nat) : Nat :=
  let low := num / den
  let twice := 2 * (num % den)
  if twice < den then low
  else if den < twice then low + 1
  else low + low % 2

def pow2 (n : Nat) : Nat := Nat.pow 2 n

def pow10 (n : Nat) : Nat := Nat.pow 10 n

/-- The largest `e` with `2 ^ e ≤ num / den`, for positive arguments. -/
def binaryOrder (num den : Nat) : Int :=
  let guess : Int := (num.log2 : Int) - den.log2
  if den * pow2 guess.toNat ≤ num * pow2 (-guess).toNat then guess else guess - 1

/-- The nearest number to `num / den`, of two the one with the even significand. -/
def Binary64.ofRatio (negative : Bool) (num den : Nat) : Binary64 :=
  if num = 0 then .finite negative 0 minExponent
  else
    let q := max (binaryOrder num den - (precision - 1)) minExponent
    let m := roundHalfEven (num * pow2 (-q).toNat) (den * pow2 q.toNat)
    let (m, q) := if m = pow2 precision then (pow2 (precision - 1), q + 1) else (m, q)
    if q > maxExponent then .infinite negative else .finite negative m q

def leastOrder : Int := -330

def greatestOrder : Int := 330

/-- The nearest number to `digits * 10 ^ exponent`. The decimal order is looked at first, so that
no power is computed for a number that is far out of range. -/
def Binary64.ofDecimal (negative : Bool) (digits : Nat) (exponent : Int) : Binary64 :=
  let order := (Nat.toDigits 10 digits).length + exponent
  if digits = 0 || order < leastOrder then .finite negative 0 minExponent
  else if order > greatestOrder then .infinite negative
  else ofRatio negative (digits * pow10 exponent.toNat) (pow10 (-exponent).toNat)

def Binary64.toInt? : Binary64 → Option Int
  | .infinite _ => none
  | .finite negative m q =>
    let divisor := pow2 (-q).toNat
    if m % divisor = 0 then
      let n : Int := (m * pow2 q.toNat / divisor : Nat)
      some (if negative then -n else n)
    else none

structure Numeral where
  digits : Nat
  exponent : Int

/-- The largest `e` with `10 ^ e ≤ m * 2 ^ q`, for positive `m`; `guess` is not below it. -/
def decimalOrderFrom (m : Nat) (q : Int) : Nat → Int → Int
  | 0, guess => guess
  | steps + 1, guess =>
    if pow10 guess.toNat * pow2 (-q).toNat ≤ m * pow2 q.toNat * pow10 (-guess).toNat then guess
    else decimalOrderFrom m q steps (guess - 1)

/-- The decimal order of `m * 2 ^ q`: the binary one, times a fraction just above the logarithm
of two, is above it by two at most. -/
def decimalOrder (m : Nat) (q : Int) : Int :=
  decimalOrderFrom m q 4 (Int.fdiv ((m.log2 + q) * 30103) 100000 + 1)

/-- Whether `d` lies among the reals that round to `m * 2 ^ q`. All is compared in quarters of
`2 ^ q`: the ends are two quarters away, the lower one only one where a power of two has a finer
neighbour, and an even significand owns its ends. -/
def readsBack (m : Nat) (q : Int) (d : Numeral) : Bool :=
  let fine := m = pow2 (Binary64.precision - 1) && q > Binary64.minExponent
  let low := 4 * m - (if fine then 1 else 2)
  let high := 4 * m + 2
  let unit := pow2 q.toNat * pow10 (-d.exponent).toNat
  let value := 4 * d.digits * pow10 d.exponent.toNat * pow2 (-q).toNat
  if m % 2 = 0 then low * unit ≤ value && value ≤ high * unit
  else low * unit < value && value < high * unit

/-- Of the two neighbours of `m * 2 ^ q` on the grid of `10 ^ exponent`, the one that reads back;
of two the nearer, and the greater from half way. -/
def neighbour? (m : Nat) (q : Int) (exponent : Int) : Option Numeral :=
  let num := m * pow2 q.toNat * pow10 (-exponent).toNat
  let den := pow2 (-q).toNat * pow10 exponent.toNat
  let below : Numeral := ⟨num / den, exponent⟩
  let above : Numeral := ⟨num / den + 1, exponent⟩
  match readsBack m q below, readsBack m q above with
  | true, true => some (if 2 * (num % den) < den then below else above)
  | true, false => some below
  | false, true => some above
  | false, false => none

/-- Seventeen digits tell any two numbers of double precision apart. -/
def mostDigits : Nat := 17

def shortest (m : Nat) (q : Int) : Numeral :=
  let order := decimalOrder m q
  let grids := (List.range mostDigits).map fun (n : Nat) => order - (n : Int)
  (grids.findSome? (neighbour? m q)).getD ⟨m * pow2 q.toNat * Nat.pow 5 (-q).toNat, -(-q).toNat⟩

def Numeral.positional (d : Numeral) : String :=
  let digits := Nat.toDigits 10 d.digits
  if d.exponent ≥ 0 then String.ofList (digits ++ List.replicate d.exponent.toNat '0')
  else
    let places := (-d.exponent).toNat
    let padded := List.replicate (places + 1 - digits.length) '0' ++ digits
    let whole := padded.take (padded.length - places)
    let part := (padded.drop (padded.length - places)).reverse.dropWhile (· = '0')
    String.ofList (if part.isEmpty then whole else whole ++ '.' :: part.reverse)

def Binary64.print : Binary64 → String
  | .infinite negative => if negative then "-inf" else "inf"
  | .finite negative m q =>
    (if negative then "-" else "") ++ if m = 0 then "0" else (shortest m q).positional

end PagedSchema.Decimal
