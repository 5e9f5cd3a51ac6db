/-
# The column that is told and the one that is drawn

The mode line tells the column of the cursor, which is one more than the width of the text
before it in its line.  Drawn are the characters of that text, each with its own columns, as
far as they fit.  So the cursor is drawn in the column that is told just if joining makes no
difference to the width of the text before it (`displayColumn_eq_drawn_iff`).

| text before the cursor | column told | column drawn |
|---|---|---|
| two letters | 3 | 3 |
| two wide signs | 5 | 5 |
| a digit and an emoji selector | 3 | 2 |
| an Arabic lam and an alef | 2 | 3 |

In a text without any character behind U+00A0 it is the column in characters, from one
(`displayColumn_of_narrow`).
-/

import TuneEditor.Proofs.Display.Appearance
import TuneEditor.Proofs.Document.Positions
import TuneEditor.Proofs.Text.Joining

namespace TuneEditor

open Text (Joins joining rowWidth)

namespace View

/-- What the mode line says of a view, with the cursor said to be in some column. -/
def statusAt (v : View) (name : List Char) (column : Nat) : List Char :=
  (if v.modified then "**" else "--").toList ++ " abcedit: ".toList ++ name ++
    (if v.editable then "" else " [read-only]").toList ++
    " L".toList ++ Text.ofNat (v.cursorLine + 1) ++
    " C".toList ++ Text.ofNat column ++
    " sel ".toList ++ Text.ofNat v.selection.start ++ "..".toList ++
    Text.ofNat v.selection.stop ++ [' ']

/-- What the mode line says of a view is what it says at the column that is told for the cursor. -/
theorem status_eq_statusAt (v : View) (name : List Char) :
    v.status name = v.statusAt name (v.document.displayColumn v.head + 1) :=
  rfl

/-- The column is read off what the mode line says. -/
theorem statusAt_injective (v : View) (name : List Char) :
    Function.Injective (v.statusAt name) := by
  intro column column' h
  simp only [statusAt, List.append_assoc, List.append_cancel_left_eq] at h
  simp only [← List.append_assoc, List.append_cancel_right_eq] at h
  exact Text.ofNat_injective h

end View

namespace Document

variable {d : Document}

/-- The column of an offset is the width of its line before it. -/
theorem exists_displayColumn_eq (d : Document) (offset : Nat) :
    ∃ line, d.lines[(d.position offset).line]? = some line ∧
      (d.position offset).column ≤ line.length ∧
      d.displayColumn offset = Text.width (line.take (d.position offset).column) := by
  obtain ⟨line, -, hline, -, hcolumn, -⟩ := d.lineStart?_position offset
  refine ⟨line, hline, hcolumn, ?_⟩
  simp only [displayColumn, hline]

/-- **In a text of characters up to U+00A0 the column of an offset is that in characters.** -/
theorem displayColumn_of_narrow (h : ∀ c ∈ d.chars, c ≤ '\u00A0') (offset : Nat) :
    d.displayColumn offset = (d.position offset).column := by
  obtain ⟨line, hline, hcolumn, hwidth⟩ := d.exists_displayColumn_eq offset
  obtain ⟨-, -, hnewline, -⟩ := exists_lineStart hline
  have hnarrow : ∀ c ∈ line.take (d.position offset).column, c ≤ '\u00A0' :=
    fun c hc => h c (mem_chars_of_getElem?_lines hline (List.mem_of_mem_take hc))
  have hjoining : joining (line.take (d.position offset).column) = 0 := by
    refine Text.joining_eq_zero_of_isChain (List.Pairwise.isChain ?_)
    refine List.pairwise_of_forall_mem_list fun c _ c' hc' => ?_
    exact Text.not_joins_of_narrow (hnarrow c' hc')
      fun heq => hnewline (heq ▸ List.mem_of_mem_take hc')
  rw [hwidth, Text.width_eq_rowWidth_iff.2 hjoining, Text.rowWidth_of_narrow hnarrow,
    List.length_take, Nat.min_eq_left hcolumn]

/-- **The column that is told is the one that is drawn just if joining makes no difference to the
text before it.**  An offset is in a line, and its column is the sum of the columns that the
characters before it in the line are drawn with and of those that come of joining.  None come of it
if no two neighbours join.  In a view with the cursor there, the characters before it are drawn just
if they fit, and the mode line tells one column more than they are drawn with just if none come of
joining. -/
theorem displayColumn_eq_drawn_iff (d : Document) (offset : Nat) :
    ∃ line, d.lines[(d.position offset).line]? = some line ∧
      (d.position offset).column ≤ line.length ∧
      let before := line.take (d.position offset).column
      (d.displayColumn offset : Int) = rowWidth before + joining before ∧
      (d.displayColumn offset = rowWidth before ↔ joining before = 0) ∧
      (before.IsChain (fun c c' => ¬ Joins c c') → d.displayColumn offset = rowWidth before) ∧
      ∀ (r : Renderer) (columns : Nat) (view : View) (name : List Char),
        let v := { view with document := d, head := offset }
        (before <+: (r.row columns v v.cursorLine).cells.map Cell.char ↔
          rowWidth before ≤ columns - r.gutter d.lineCount) ∧
        (v.status name = v.statusAt name (rowWidth before + 1) ↔ joining before = 0) := by
  obtain ⟨line, hline, hcolumn, hwidth⟩ := d.exists_displayColumn_eq offset
  refine ⟨line, hline, hcolumn, ?_⟩
  intro before
  have htold : d.displayColumn offset = rowWidth before ↔ joining before = 0 := by
    rw [hwidth]
    exact Text.width_eq_rowWidth_iff
  refine ⟨?_, htold, fun hchain => htold.2 (Text.joining_eq_zero_of_isChain hchain), ?_⟩
  · rw [hwidth]
    exact Text.width_eq before
  intro r columns view name v
  constructor
  · have hcursor : v.document.lines[v.cursorLine]? = some line := hline
    rw [Renderer.map_char_cells_row, hcursor, front_fitting_iff]
    exact and_iff_right (List.take_prefix _ line)
  · rw [v.status_eq_statusAt, (v.statusAt_injective name).eq_iff, Nat.add_right_cancel_iff]
    exact htold

/-- A digit and an emoji selector are drawn with one column, and the mode line tells that the cursor
behind them is in the third. -/
theorem displayColumn_ne_drawn_of_selector :
    let d := Document.ofChars ['1', '\uFE0F']
    let v := (View.new ['1', '\uFE0F'] 1).run [.moveCursor 2]
    d.lines[(d.position 2).line]? = some ['1', '\uFE0F'] ∧ (d.position 2).column = 2 ∧
      d.displayColumn 2 = 2 ∧ rowWidth ['1', '\uFE0F'] = 1 ∧
      v.document = d ∧ v.head = 2 ∧
      ((Renderer.new {} false true).render ⟨32, false⟩ v ['n']).1 =
        "1\uFE0F\n-- abcedit: n L1 C3 sel 2..2 ---\n".toList := by
  decide +kernel

end Document
end TuneEditor
