/-
# The text of an editor

A host addresses the text by character offsets, a reader by lines and columns,
a display by columns on the screen and a scan by bytes.  `Document` holds the
characters and answers in each of these units.

| unit | functions |
|---|---|
| characters | `size`, `slice?`, `replace?` |
| bytes | `byteOffset?` |
| lines | `lines`, `lineCount`, `position`, `lineStart?` |
| screen columns | `displayColumn` |

Lines end at newlines, and a newline at the end of the text begins one more
line, so no text is without a line.
-/

import TuneEditor.Text.Blank
import TuneEditor.Text.Utf8
import TuneEditor.Text.Width

namespace TuneEditor

/-- A line and a column in it, both counted from zero and the column in characters. -/
structure Position where
  line : Nat := 0
  column : Nat := 0
  deriving DecidableEq, Repr

namespace Position

/-- The position behind one more character. -/
def advance (p : Position) (c : Char) : Position :=
  if c = '\n' then ⟨p.line + 1, 0⟩ else ⟨p.line, p.column + 1⟩

end Position

/-- The characters of a text and their number. -/
structure Document where
  chars : List Char
  size : Nat
  size_eq : size = chars.length
  deriving DecidableEq

namespace Document

/-- The document that holds a text. -/
def ofChars (cs : List Char) : Document :=
  ⟨cs, cs.length, rfl⟩

/-- Whether the text is empty. -/
def isEmpty (d : Document) : Bool :=
  d.chars.isEmpty

/-- The bytes that the first characters of a text take; none if there are not so many. -/
def bytesOfFirst? : List Char → Nat → Option Nat
  | _, 0 => some 0
  | [], _ + 1 => none
  | c :: cs, n + 1 => (bytesOfFirst? cs n).map (c.utf8Size + ·)

/-- The byte position of a character offset.  The size of the text is the offset of its end. -/
def byteOffset? (d : Document) (offset : Nat) : Option Nat :=
  bytesOfFirst? d.chars offset

/-- The text between two offsets, if they are in order and lie in the text. -/
def slice? (d : Document) (start stop : Nat) : Option (List Char) :=
  if start ≤ stop ∧ stop ≤ d.size then some ((d.chars.take stop).drop start) else none

/-- The document with a text in place of what is between two offsets.  The edit is refused if the
offsets are out of order or outside the text. -/
def replace? (d : Document) (start stop : Nat) (text : List Char) : Option Document :=
  if h : start ≤ stop ∧ stop ≤ d.size then
    some
      { chars := d.chars.take start ++ text ++ d.chars.drop stop
        size := d.size - (stop - start) + text.length
        size_eq := by
          have := d.size_eq
          simp only [List.length_append, List.length_take, List.length_drop]
          omega }
  else none

/-- The lines of the text. -/
def lines (d : Document) : List (List Char) :=
  Text.lines d.chars

/-- The number of lines. -/
def lineCount (d : Document) : Nat :=
  d.chars.count '\n' + 1

/-- The line and column of an offset.  An offset past the end means the end. -/
def position (d : Document) (offset : Nat) : Position :=
  (d.chars.take offset).foldl Position.advance {}

/-- The offset behind a number of newlines. -/
def offsetAfterNewlines? : Nat → List Char → Option Nat
  | 0, _ => some 0
  | _ + 1, [] => none
  | n + 1, c :: cs => (offsetAfterNewlines? (if c = '\n' then n else n + 1) cs).map (· + 1)

/-- The offset at which a line starts, if there is such a line. -/
def lineStart? (d : Document) (line : Nat) : Option Nat :=
  offsetAfterNewlines? line d.chars

/-- The screen column of an offset in its line. -/
def displayColumn (d : Document) (offset : Nat) : Nat :=
  let p := d.position offset
  match d.lines[p.line]? with
  | some line => Text.width (line.take p.column)
  | none => 0

end Document
end TuneEditor
