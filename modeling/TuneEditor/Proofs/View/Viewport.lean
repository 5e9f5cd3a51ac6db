/-
# Where the viewport goes

Following the cursor and scrolling both put the viewport at a line that there is,
for no line of the cursor or of a selection is below the last one.

| what moves it | where it begins then |
|---|---|
| following the cursor | at a line of the text (`exists_ensureCursorVisible`) |
| scrolling to a selection | where the line of the selection is in view (`isLineVisible_scrollIntoView`) |

Scrolling aims at a position with a margin on both sides of the line
(`topLineFor_margin`), and the lowest position comes in between only where the text
ends.  A viewport has a row at least.  Without one, nothing would ever be in view.
-/

import TuneEditor.Proofs.Document
import TuneEditor.View

namespace TuneEditor
namespace View

variable {v : View}

/-- A line is in view just if the viewport begins no lower and ends below it. -/
theorem isLineVisible_iff {line : Nat} :
    v.isLineVisible line = true ↔ v.topLine ≤ line ∧ line < v.topLine + v.height := by
  simp [isLineVisible]

/-- The lowest position of the viewport is a line of the text. -/
theorem maxTopLine_lt (h : 0 < v.height) : v.maxTopLine < v.document.lineCount := by
  have hpos := v.document.lineCount_pos
  unfold maxTopLine
  omega

/-- Once the cursor is in view, the viewport begins at a line of the text, wherever it began. -/
theorem exists_ensureCursorVisible (v : View) (h : 0 < v.height) :
    ∃ topLine < v.document.lineCount, v.ensureCursorVisible = { v with topLine } := by
  have hcursor : v.cursorLine < v.document.lineCount := v.document.line_position_lt v.head
  unfold ensureCursorVisible
  split
  · exact ⟨v.cursorLine, hcursor, rfl⟩
  · split
    · exact ⟨v.cursorLine + 1 - v.height, by omega, rfl⟩
    · exact ⟨v.topLine, by omega, rfl⟩

/-- How many lines scrolling keeps in view above a line and below it.  More than half of the rows
cannot be on both sides. -/
def keptMargin (v : View) (o : Scroll) : Nat :=
  min o.margin ((v.height - 1) / 2)

/-- Where the viewport should begin for a line: in the middle, or as near to where it is as the
margin allows. -/
theorem topLineFor_eq (v : View) (line : Nat) (o : Scroll) :
    v.topLineFor line o =
      if o.centered then line - v.height / 2
      else if line < v.topLine + v.keptMargin o then line - v.keptMargin o
      else if v.topLine + v.height ≤ line + v.keptMargin o then
        line + v.keptMargin o + 1 - v.height
      else v.topLine :=
  rfl

/-- **Scrolling aims at a position of the viewport with the margin on both sides of the line**, but
for the top of the text. -/
theorem topLineFor_margin (h : 0 < v.height) (line : Nat) (o : Scroll) :
    v.topLineFor line o + min (v.keptMargin o) line ≤ line ∧
      line + v.keptMargin o < v.topLineFor line o + v.height := by
  have hmargin : v.keptMargin o ≤ (v.height - 1) / 2 := Nat.min_le_right _ _
  rw [topLineFor_eq]
  split
  · omega
  · split
    · omega
    · split <;> omega

/-- A view that is alive scrolls to where it should begin for the selection, but no lower than the
lowest position. -/
theorem scrollIntoView_of_alive (halive : v.alive = true) (s : Selection) (o : Scroll) :
    v.scrollIntoView s o =
      { v with
        topLine := min (v.topLineFor (v.document.position s.start).line o) v.maxTopLine } :=
  if_pos halive

/-- **The line where a selection starts is in view once the viewport has been scrolled to it.**  The
lowest position of the viewport does not come in between: the rows from there reach to the last
line. -/
theorem isLineVisible_scrollIntoView (halive : v.alive = true) (h : 0 < v.height) (s : Selection)
    (o : Scroll) :
    (v.scrollIntoView s o).isLineVisible (v.document.position s.start).line = true := by
  have hline := v.document.line_position_lt s.start
  have haim := topLineFor_margin h (v.document.position s.start).line o
  rw [scrollIntoView_of_alive halive, isLineVisible_iff]
  unfold maxTopLine
  dsimp only
  omega

end View
end TuneEditor
