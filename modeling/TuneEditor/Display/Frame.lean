/-
# What is drawn

A frame is a row for every line in view and a mode line below them.  A row is
a list of cells, a character and its style each, behind a line number if there
are any.  `Frame.print` is the text that draws it: cells of one style that
stand together go out as one run.
-/

import TuneEditor.Display.Screen
import TuneEditor.Highlight.Line
import TuneEditor.Selection
import TuneEditor.Style.Theme
import TuneEditor.Text.Width

namespace TuneEditor

/-- A drawn character. -/
structure Cell where
  char : Char
  style : Style
  deriving DecidableEq, Repr

/-- A drawn line, with its number in front if lines are numbered. -/
structure Row where
  number : Option (List Char)
  cells : List Cell
  deriving DecidableEq, Repr

/-- Everything that is drawn of a view. -/
structure Frame where
  rows : List Row
  modeLine : List Char
  deriving DecidableEq, Repr

/-- As much of the front of a text as fits into some columns. -/
def fitting (columns : Nat) : List Char → List Char
  | [] => []
  | c :: cs =>
    if Text.charWidth c ≤ columns then c :: fitting (columns - Text.charWidth c) cs else []

/-- What fits is no wider than the columns. -/
theorem rowWidth_fitting_le (columns : Nat) (cs : List Char) :
    Text.rowWidth (fitting columns cs) ≤ columns := by
  induction cs generalizing columns with
  | nil => simp [fitting, Text.rowWidth]
  | cons c cs ih =>
    rw [fitting]
    split
    · rename_i h
      have := ih (columns - Text.charWidth c)
      rw [Text.rowWidth]
      omega
    · simp [Text.rowWidth]

namespace Cell

/-- The style at a byte of a line and an offset of the text: that of the span there, with the
selection's over it. -/
def styleAt (t : Theme) (spans : List Span) (s : Selection) (byte offset : Nat) : Style :=
  let base := ((spans.find? (·.contains byte)).map fun span => t.style span.tag).getD .plain
  if s.covers offset then base.overlay t.selection else base

/-- The cells of a text whose first character is at a byte of its line and at an offset. -/
def ofChars (t : Theme) (spans : List Span) (s : Selection) (byte offset : Nat) :
    List Char → List Cell
  | [] => []
  | c :: cs =>
    ⟨c, styleAt t spans s byte offset⟩ :: ofChars t spans s (byte + c.utf8Size) (offset + 1) cs

/-- Cells of one style that stand together, as one text. -/
def runs : List Cell → List (Style × List Char)
  | [] => []
  | c :: cs =>
    match runs cs with
    | [] => [(c.style, [c.char])]
    | (style, text) :: rest =>
      if c.style = style then (style, c.char :: text) :: rest
      else (c.style, [c.char]) :: (style, text) :: rest

end Cell

/-- The text that draws a row. -/
def Row.print (s : Screen) (r : Row) : List Char :=
  (match r.number with
    | some n => s.dim true ++ n ++ s.dim false
    | none => []) ++
    (Cell.runs r.cells).flatMap (fun (style, text) => s.styled style text) ++ ['\n']

/-- The text that draws a frame. -/
def Frame.print (s : Screen) (f : Frame) : List Char :=
  f.rows.flatMap (Row.print s) ++ s.reverse true ++ f.modeLine ++ s.reverse false ++ ['\n']

end TuneEditor
