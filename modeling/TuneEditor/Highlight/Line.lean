/-
# One line at a time

A display that draws line by line needs the spans of one line and the region
in which the next line begins.
-/

import TuneEditor.Notation.Lexeme

namespace TuneEditor

/-- The spans of a line, in bytes from its start, and the region behind it. -/
structure LineHighlight where
  spans : List Span
  after : Region
  deriving DecidableEq, Repr

/-- Highlights a line that begins in a region. -/
def highlightLine (region : Region) (line : List Char) : LineHighlight where
  spans := (steps region line).filterMap Span.ofStep?
  after := ((steps region line).getLast?.map Step.after).getD region

/-- Highlights lines that follow each other, each in the region where the one before it ended. -/
def highlightLines (region : Region) : List (List Char) → List LineHighlight
  | [] => []
  | line :: lines =>
    let h := highlightLine region line
    h :: highlightLines h.after lines

/-- Each line has its highlighting. -/
@[simp] theorem length_highlightLines (region : Region) (lines : List (List Char)) :
    (highlightLines region lines).length = lines.length := by
  induction lines generalizing region with
  | nil => rfl
  | cons line lines ih => simp [highlightLines, ih]

end TuneEditor
