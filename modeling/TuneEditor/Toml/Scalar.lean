/-
# Strings and numbers of a settings file

Each reader takes its form off the front of a text and gives what is left; it
gives nothing if the text does not begin with the form.

Strings stand between quotation marks, where a backslash begins an escape, or
between apostrophes, where everything stands for itself.  Between three of
either a string may hold newlines and up to two of the marks in a row; a
newline right behind the opening marks does not count, and neither do the
blanks and newlines behind a backslash at the end of a line.

Numbers may have underscores between digits and, but for hexadecimal, octal
and binary ones, a sign.  Whole numbers have 64 bits.
-/

import TuneEditor.Text.Binary64
import TuneEditor.Toml.Value

namespace TuneEditor
namespace Toml

/-- The blanks between the parts of a line. -/
def isGap (c : Char) : Bool :=
  c == ' ' || c == '\t'

/-- Characters that may stand in comments and strings: all but the controls, the tab allowed. -/
def isPlain (c : Char) : Bool :=
  c == '\t' || (0x20 ≤ c.toNat && c.toNat != 0x7F)

/-- The text behind the blanks at its front. -/
def skipGap (cs : List Char) : List Char :=
  cs.dropWhile isGap

/-- The text behind a newline. -/
def newline? : List Char → Option (List Char)
  | '\n' :: cs => some cs
  | '\x0d' :: '\n' :: cs => some cs
  | _ => none

/-- The value of a digit in a base up to sixteen. -/
def digitIn? (base : Nat) (c : Char) : Option Nat :=
  let n :=
    if c.isDigit then c.toNat - '0'.toNat
    else if 'a' ≤ c ∧ c ≤ 'f' then c.toNat - 'a'.toNat + 10
    else if 'A' ≤ c ∧ c ≤ 'F' then c.toNat - 'A'.toNat + 10
    else 16
  if n < base then some n else none

/-- The number that digits in a base mean. -/
def numberIn? (base : Nat) (ds : List Char) : Option Nat :=
  ds.foldlM (fun n c => (digitIn? base c).map (base * n + ·)) 0

/-- The character whose code point hexadecimal digits give. -/
def charOfHex? (ds : List Char) : Option Char := do
  let n ← numberIn? 16 ds
  if n.isValidChar then some (Char.ofNat n) else none

/-! ### Strings -/

/-- The character that one letter behind a backslash means. -/
def simpleEscape? (c : Char) : Option Char :=
  if c = 'b' then some '\x08'
  else if c = 't' then some '\t'
  else if c = 'n' then some '\n'
  else if c = 'f' then some '\x0c'
  else if c = 'r' then some '\x0d'
  else if c = '"' then some '"'
  else if c = '\\' then some '\\'
  else none

/-- The end of a string over several lines, behind a first mark of it: two more marks, and up to two
in front that belong to the string. -/
def closing? (mark : Char) (cs : List Char) : Option (List Char × List Char) :=
  let run := (cs.takeWhile (· == mark)).length
  if run < 2 then none
  else
    let inside := min (run - 2) 2
    some (List.replicate inside mark, cs.drop (inside + 2))

/-- A character in front of what was read. -/
def consRead (c : Char) (r : Option (List Char × List Char)) : Option (List Char × List Char) :=
  r.map fun (content, rest) => (c :: content, rest)

/-- A string with escapes, behind its opening marks.  Behind a backslash at the end of a line it is
`skipping` blanks and newlines. -/
def readBasic (multiline : Bool) : Bool → List Char → Option (List Char × List Char)
  | _, [] => none
  | skipping, c :: cs =>
    if skipping && isGap c then readBasic multiline true cs
    else if c = '\n' then
      if !multiline then none
      else if skipping then readBasic multiline true cs
      else consRead '\n' (readBasic multiline false cs)
    else if c = '\x0d' then
      match cs with
      | '\n' :: cs =>
        if !multiline then none
        else if skipping then readBasic multiline true cs
        else consRead '\n' (readBasic multiline false cs)
      | _ => none
    else if c = '"' then
      if !multiline then some ([], cs)
      else
        match closing? '"' cs with
        | some r => some r
        | none => consRead '"' (readBasic multiline false cs)
    else if c = '\\' then
      match cs with
      | [] => none
      | 'u' :: x₁ :: x₂ :: x₃ :: x₄ :: cs => do
        let d ← charOfHex? [x₁, x₂, x₃, x₄]
        consRead d (readBasic multiline false cs)
      | 'U' :: x₁ :: x₂ :: x₃ :: x₄ :: x₅ :: x₆ :: x₇ :: x₈ :: cs => do
        let d ← charOfHex? [x₁, x₂, x₃, x₄, x₅, x₆, x₇, x₈]
        consRead d (readBasic multiline false cs)
      | e :: cs' =>
        match simpleEscape? e with
        | some d => consRead d (readBasic multiline false cs')
        | none =>
          if multiline && (newline? (skipGap (e :: cs'))).isSome then
            readBasic multiline true (e :: cs')
          else none
    else if isPlain c then consRead c (readBasic multiline false cs)
    else none

/-- A string without escapes, behind its opening marks. -/
def readLiteral (multiline : Bool) : List Char → Option (List Char × List Char)
  | [] => none
  | c :: cs =>
    if c = '\n' then if multiline then consRead '\n' (readLiteral multiline cs) else none
    else if c = '\x0d' then
      match cs with
      | '\n' :: cs => if multiline then consRead '\n' (readLiteral multiline cs) else none
      | _ => none
    else if c = '\'' then
      if !multiline then some ([], cs)
      else
        match closing? '\'' cs with
        | some r => some r
        | none => consRead '\'' (readLiteral multiline cs)
    else if isPlain c then consRead c (readLiteral multiline cs)
    else none

/-- A string of one of the four forms. -/
def readString : List Char → Option (List Char × List Char)
  | '"' :: '"' :: '"' :: cs => readBasic true false ((newline? cs).getD cs)
  | '"' :: cs => readBasic false false cs
  | '\'' :: '\'' :: '\'' :: cs => readLiteral true ((newline? cs).getD cs)
  | '\'' :: cs => readLiteral false cs
  | _ => none

/-! ### Numbers -/

/-- Digits with an underscore between any two of them or none, and the text behind. -/
def digitRun (base : Nat) : List Char → List Char × List Char
  | [] => ([], [])
  | '_' :: c :: cs =>
    if (digitIn? base c).isSome then
      let (ds, rest) := digitRun base cs
      (c :: ds, rest)
    else ([], '_' :: c :: cs)
  | c :: cs =>
    if (digitIn? base c).isSome then
      let (ds, rest) := digitRun base cs
      (c :: ds, rest)
    else ([], c :: cs)

/-- Digits of which the first is at the front of the text. -/
def readRun (base : Nat) (cs : List Char) : Option (List Char × List Char) :=
  match digitRun base cs with
  | ([], _) => none
  | r => if cs.head? = some '_' then none else some r

/-- A sign, which may be missing, and whether it is a minus. -/
def readSign : List Char → Bool × List Char
  | '+' :: cs => (false, cs)
  | '-' :: cs => (true, cs)
  | cs => (false, cs)

/-- A sign and decimal digits; a zero in front is the only digit. -/
def readDecimal (cs : List Char) : Option (Bool × List Char × List Char) := do
  let (negative, cs) := readSign cs
  match cs with
  | '0' :: rest => some (negative, ['0'], rest)
  | _ =>
    let (ds, rest) ← readRun 10 cs
    some (negative, ds, rest)

/-- An exponent, behind its letter. -/
def readExponent (cs : List Char) : Option (Int × List Char) := do
  let cs ← expect ['e', 'E'] cs
  let (negative, cs) := readSign cs
  let (ds, rest) ← readRun 10 cs
  let n ← numberIn? 10 ds
  some (if negative then -(n : Int) else n, rest)

/-- A fraction and an exponent, one of which may be missing. -/
def readScale (cs : List Char) : Option (List Char × Int × List Char) :=
  match cs with
  | '.' :: cs => do
    let (ds, rest) ← readRun 10 cs
    match readExponent rest with
    | some (e, rest) => some (ds, e, rest)
    | none => some (ds, 0, rest)
  | cs => (readExponent cs).map fun (e, rest) => ([], e, rest)

/-- A keyword at the front of a text. -/
def readKeyword (word : String) (cs : List Char) : Option (List Char) :=
  if word.toList.isPrefixOf cs then some (cs.drop word.toList.length) else none

/-- A floating point number.  One too large for the format is refused, unless it is negative. -/
def readFloat (cs : List Char) : Option (Binary64 × List Char) :=
  match readDecimal cs with
  | some (negative, ds, rest) => do
    let (fraction, e, rest) ← readScale rest
    let n ← numberIn? 10 (ds ++ fraction)
    let x := Binary64.ofDecimal negative n (e - fraction.length)
    if x = .infinite false then none else some (x, rest)
  | none =>
    let (negative, cs) := readSign cs
    match readKeyword "inf" cs with
    | some rest => some (.infinite negative, rest)
    | none => (readKeyword "nan" cs).map fun rest => (.nan, rest)

/-- A whole number of 64 bits.  Behind `0x`, `0o` and `0b` it has no sign and another base. -/
def readInteger (cs : List Char) : Option (Int × List Char) :=
  match cs with
  | '0' :: 'x' :: cs => based 16 cs
  | '0' :: 'o' :: cs => based 8 cs
  | '0' :: 'b' :: cs => based 2 cs
  | cs => do
    let (negative, ds, rest) ← readDecimal cs
    let n ← (Text.readOffset (if negative then '-' :: ds else ds)).toOption
    some (n, rest)
where
  based (base : Nat) (cs : List Char) : Option (Int × List Char) := do
    let (ds, rest) ← readRun base cs
    let n ← numberIn? base ds
    if n < Nat.pow 2 63 then some (n, rest) else none

/-- A value that has no parts. -/
def readScalar (cs : List Char) : Option (Value × List Char) :=
  match cs with
  | [] => none
  | c :: _ =>
    if c = '"' ∨ c = '\'' then (readString cs).map fun (s, rest) => (.string s, rest)
    else if c = 't' then (readKeyword "true" cs).map fun rest => (.boolean true, rest)
    else if c = 'f' then (readKeyword "false" cs).map fun rest => (.boolean false, rest)
    else
      ((readMoment cs).map fun (m, rest) => (.moment m, rest)) <|>
        ((readFloat cs).map fun (x, rest) => (.float x, rest)) <|>
        ((readInteger cs).map fun (n, rest) => (.integer n, rest))

end Toml
end TuneEditor
