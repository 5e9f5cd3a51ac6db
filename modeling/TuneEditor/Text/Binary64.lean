/-
# Binary floating point in decimal text

A number of the 64-bit binary format is `m * 2 ^ e` with `m` below `2 ^ 53` and
`e` at least `-1074`, or infinite, or no number.  `ofDecimal` gives the one
nearest to a decimal, of two the one with an even `m`.

`digits` goes back: the fewest decimal digits that are nearer to the number
than to any other of the format, and of those the nearest to the number.  It
tries one digit after another: on each grid of decimals only the two neighbours
of the number can be nearer to it than to another.  `text` writes them without
an exponent and marks a whole number by `.0`.
-/

import TuneEditor.Text.Integer

namespace TuneEditor

/-- A number of the 64-bit binary format. -/
inductive Binary64
  | finite (negative : Bool) (mantissa : Nat) (exponent : Int)
  | infinite (negative : Bool)
  | nan
  deriving DecidableEq, Repr

namespace Binary64

/-- The mantissas of the format are below this one. -/
def mantissaLimit : Nat := Nat.pow 2 53

/-- The least exponent of the format. -/
def minExponent : Int := -1074

/-- The greatest exponent of the format. -/
def maxExponent : Int := 971

/-- `n / d` rounded to a whole number, a half to the even neighbour. -/
def roundDiv (n d : Nat) : Nat :=
  let q := n / d
  let twice := 2 * (n % d)
  if twice < d then q else if twice > d then q + 1 else if q % 2 = 0 then q else q + 1

/-- The ratio `n / d` times `2 ^ (-e)`, as a ratio. -/
def scaled (n d : Nat) (e : Int) : Nat × Nat :=
  if e < 0 then (n * Nat.pow 2 e.natAbs, d) else (n, d * Nat.pow 2 e.natAbs)

/-- The exponent that a ratio is written with: the least at which it has a mantissa of the
format. -/
def exponentFor (n d : Nat) : Int :=
  let e := max ((Nat.log2 n : Int) - Nat.log2 d - 53) minExponent
  let fits (e : Int) : Bool :=
    let (a, b) := scaled n d e
    a < mantissaLimit * b
  if fits e then e else if fits (e + 1) then e + 1 else e + 2

/-- The number of the format nearest to a ratio. -/
def ofRatio (negative : Bool) (n d : Nat) : Binary64 :=
  let e := exponentFor n d
  let (a, b) := scaled n d e
  let m := roundDiv a b
  let (m, e) := if m = mantissaLimit then (m / 2, e + 1) else (m, e)
  if maxExponent < e then .infinite negative else .finite negative m e

/-- The number of the format nearest to `n * 10 ^ e`.  With more than 310 digits in front of the
point there are only infinities, and with more than 330 zeros behind it only zero, so that no larger
power of ten is ever needed. -/
def ofDecimal (negative : Bool) (n : Nat) (e : Int) : Binary64 :=
  let digits : Int := (Text.ofNat n).length + e
  if n = 0 ∨ digits < -330 then .finite negative 0 minExponent
  else if 310 < digits then .infinite negative
  else if e < 0 then ofRatio negative n (Nat.pow 10 e.natAbs)
  else ofRatio negative (n * Nat.pow 10 e.natAbs) 1

/-- Whether a ratio is nearer to `m * 2 ^ e` than to any other number of the format.  Below a power
of two the neighbours are closer together; where two are as near, the even one has it. -/
def isNearest (m : Nat) (e : Int) (n d : Nat) : Bool :=
  let (a, b) := scaled n d (e - 2)
  let low := if m * 2 = mantissaLimit && e != minExponent then 4 * m - 1 else 4 * m - 2
  let high := 4 * m + 2
  if m % 2 = 0 then low * b ≤ a && a ≤ high * b else low * b < a && a < high * b

/-- The place of the first digit of the ratio `n / d`: the least `p` with `n / d < 10 ^ p`. -/
def firstPlace (n d : Nat) : Int :=
  let guess : Int := (Text.ofNat n).length - (Text.ofNat d).length
  let below (p : Int) : Bool :=
    if p < 0 then n * Nat.pow 10 p.natAbs < d else n < d * Nat.pow 10 p.natAbs
  if below guess then guess else guess + 1

/-- The two decimals with `count` digits around `m * 2 ^ e`, tried for being nearest to it. -/
def tryDigits (m : Nat) (e : Int) (count : Nat) : Option (Nat × Int) :=
  let (n, d) := scaled m 1 (-e)
  let place := firstPlace n d - count
  let scale := Nat.pow 10 place.natAbs
  let (a, b) := if place < 0 then (n * scale, d) else (n, d * scale)
  let low := a / b
  let asRatio (k : Nat) : Nat × Nat :=
    if place < 0 then (k, scale) else (k * scale, 1)
  let fits (k : Nat) : Bool := let (x, y) := asRatio k; isNearest m e x y
  let upper : Bool := b ≤ 2 * (a % b)
  if fits low && (!upper || !fits (low + 1)) then some (low, place)
  else if fits (low + 1) then
    if low + 1 = Nat.pow 10 count then some (1, place + count) else some (low + 1, place)
  else none

/-- The fewest digits that mean `m * 2 ^ e` and no other number, and the place of the last. -/
def shortest (m : Nat) (e : Int) : Nat × Int :=
  (((List.range 17).map (· + 1)).findSome? (tryDigits m e)).getD (m, e)

/-- Digits that end at a place, written without an exponent; a whole number ends in `.0`. -/
def positional (ds : List Char) (place : Int) : List Char :=
  if 0 ≤ place then ds ++ List.replicate place.natAbs '0' ++ ['.', '0']
  else
    let behind := place.natAbs
    let ds := List.replicate (behind + 1 - ds.length) '0' ++ ds
    ds.take (ds.length - behind) ++ '.' :: ds.drop (ds.length - behind)

/-- A number in decimal text. -/
def text : Binary64 → List Char
  | nan => "nan".toList
  | infinite negative => (if negative then "-inf" else "inf").toList
  | finite negative m e =>
    let sign := if negative then ['-'] else []
    if m = 0 then sign ++ "0.0".toList
    else
      let (n, place) := shortest m e
      sign ++ positional (Text.ofNat n) place

end Binary64
end TuneEditor
