/-
# Reading whole numbers

A whole number is a sign, which may be missing, and at least one ASCII digit.
It is read for a range, from the left, and the first character that cannot
belong to a number of the range decides what is wrong with the text.
-/

namespace TuneEditor
namespace Text

/-- Why a text is no number of a range. -/
inductive IntegerError
  | empty
  | invalidDigit
  | tooLarge
  | tooSmall
  deriving DecidableEq, Repr

/-- The cause in words. -/
def IntegerError.message : IntegerError → String
  | empty => "cannot parse integer from empty string"
  | invalidDigit => "invalid digit found in string"
  | tooLarge => "number too large to fit in target type"
  | tooSmall => "number too small to fit in target type"

/-- The value of a digit, for ASCII digits only. -/
def digit? (c : Char) : Option Nat :=
  if c.isDigit then some (c.toNat - '0'.toNat) else none

/-- Reads digits after a number `value`, up to the number `most`. -/
def readDigits (most : Nat) (excess : IntegerError) (value : Nat) :
    List Char → Except IntegerError Nat
  | [] => .ok value
  | c :: cs =>
    match digit? c with
    | none => .error .invalidDigit
    | some d =>
      if 10 * value + d ≤ most then readDigits most excess (10 * value + d) cs else .error excess

/-- Reads a number from `-below` to `most`.  A range without negative numbers has no minus sign. -/
def readInteger (below most : Nat) (cs : List Char) : Except IntegerError Int :=
  match cs with
  | [] => .error .empty
  | ['+'] => .error .invalidDigit
  | ['-'] => .error .invalidDigit
  | '+' :: ds => (readDigits most .tooLarge 0 ds).map Int.ofNat
  | '-' :: ds =>
    if below = 0 then .error .invalidDigit
    else (readDigits below .tooSmall 0 ds).map fun n => -(n : Int)
  | ds => (readDigits most .tooLarge 0 ds).map Int.ofNat

/-- Reads an offset that a host may send: a number of 64 bits, one of them for the sign. -/
def readOffset (cs : List Char) : Except IntegerError Int :=
  readInteger (Nat.pow 2 63) (Nat.pow 2 63 - 1) cs

/-- Reads a count: a number of 64 bits without a sign bit. -/
def readCount (cs : List Char) : Except IntegerError Nat :=
  (readInteger 0 (Nat.pow 2 64 - 1) cs).map Int.toNat

/-- The decimal digits of a number. -/
def ofNat (n : Nat) : List Char :=
  Nat.toDigits 10 n

/-- A number in decimal, with a minus sign if it is negative. -/
def ofInt (n : Int) : List Char :=
  if n < 0 then '-' :: ofNat n.natAbs else ofNat n.natAbs

/-- Blanks in front of a text, so that it takes `width` characters at least. -/
def padLeft (width : Nat) (cs : List Char) : List Char :=
  List.replicate (width - cs.length) ' ' ++ cs

/-- Blanks behind a text, so that it takes `width` characters at least. -/
def padRight (width : Nat) (cs : List Char) : List Char :=
  cs ++ List.replicate (width - cs.length) ' '

end Text
end TuneEditor
