/-
# Rows fit the screen

Without colour a view is written as one row for each line in view and the mode line, each
of them ended by a newline and with no other newline in it (`plain_draw_eq`).

| written | columns |
|---|---|
| the number of a line, with a blank behind it | the same for all lines, the gutter (`rowWidth_numberText`) |
| the front of the line | what the gutter leaves of the screen at most |
| the mode line | those of the screen at most (`rowWidth_modeLine_le`) |

So a row is wider than the screen only if the gutter is.  The dashes of the mode line are
counted by the bytes that are missing.  That is never too many, since no character takes more
columns than bytes.
-/

import TuneEditor.Proofs.Display.ModeLine
import TuneEditor.Proofs.Display.Plain
import TuneEditor.Proofs.Document.Positions
import TuneEditor.Proofs.View.Soundness

namespace TuneEditor

open Text (rowWidth)

/-- A text that is padded has the width asked for, or its own if that is larger. -/
theorem Text.length_padLeft (width : Nat) (cs : List Char) :
    (padLeft width cs).length = max width cs.length := by
  rw [padLeft, List.length_append, List.length_replicate]
  omega

/-- There are as many lines in view as the viewport has room for and the text has from the top
on. -/
theorem View.length_visibleLines (v : View) :
    v.visibleLines.length = min v.height (v.document.lineCount - v.topLine) := by
  rw [visibleLines, List.length_range']
  omega

/-- A line in view is one of the text. -/
theorem View.lt_lineCount_of_mem_visibleLines {v : View} {line : Nat} (h : line ∈ v.visibleLines) :
    line < v.document.lineCount := by
  obtain ⟨i, hi, rfl⟩ := List.mem_range'.1 h
  omega

namespace Renderer

variable {r : Renderer}

/-- A line of a view as it is written without colour. -/
def rowText (r : Renderer) (columns : Nat) (v : View) (line : Nat) : List Char :=
  r.numberText v.document.lineCount line ++
    fitting (columns - r.gutter v.document.lineCount) (v.document.lines[line]?.getD [])

/-- All that is written without colour: the rows and the mode line, each ended by a newline. -/
def written (r : Renderer) (columns : Nat) (v : View) (name : List Char) : List Char :=
  (v.visibleLines.map (r.rowText columns v) ++ [modeLine columns (v.status name)]).flatMap
    (· ++ ['\n'])

/-- What a drawing says, row by row. -/
theorem plain_draw_eq (r : Renderer) (columns : Nat) (v : View) (name : List Char) :
    (r.draw columns v name).1.plain = r.written columns v name := by
  rw [plain_draw, written, List.flatMap_append, List.flatMap_map, List.flatMap_singleton,
    List.append_assoc]
  rfl

/-- On any screen the rows and the mode line are written, with escapes in them or not. -/
theorem dressed_render (r : Renderer) (s : Screen) (v : View) (name : List Char) :
    Terminal.Dressed (r.render s v name).1 (r.written s.columns v name) := by
  rw [← plain_draw_eq]
  exact Frame.dressed_print s _

/-- On a screen without colour nothing else is written. -/
theorem render_eq_of_not_color (r : Renderer) {s : Screen} (hs : s.color = false) (v : View)
    (name : List Char) :
    (r.render s v name).1 = r.written s.columns v name := by
  rw [← plain_draw_eq]
  exact Frame.print_eq_plain hs _

/-- If there is no escape in the text or the name, nothing else is left of it. -/
theorem withoutEscapes_render (r : Renderer) (s : Screen) {v : View} {name : List Char}
    (htext : '\x1b' ∉ v.text) (hname : '\x1b' ∉ name) :
    Terminal.withoutEscapes (r.render s v name).1 = r.written s.columns v name := by
  rw [← plain_draw_eq]
  exact (Frame.dressed_print s _).withoutEscapes_eq
    (r.escape_notMem_plain_draw s.columns htext hname)

/-! ### The gutter -/

/-- The gutter has room for the number of lines, at least for three digits, and a blank. -/
theorem gutter_eq (r : Renderer) (lineCount : Nat) :
    r.gutter lineCount =
      if r.lineNumbers then max 3 (Text.ofNat lineCount).length + 1 else 0 := by
  unfold gutter
  rw [max_comm]

/-- No number of a line is longer than that of the last one, so they all take up the same. -/
theorem length_numberText {lineCount line : Nat} (h : line < lineCount) :
    (r.numberText lineCount line).length = r.gutter lineCount := by
  have hdigits := Text.length_ofNat_le (Nat.succ_le_of_lt h)
  unfold numberText gutter
  split
  · rw [List.length_append, Text.length_padLeft, List.length_singleton]
    change (Text.ofNat (line + 1)).length ≤ _ at hdigits
    omega
  · rfl

/-- A number takes up the gutter in columns as well, since its characters are fit for a label. -/
theorem rowWidth_numberText {lineCount line : Nat} (h : line < lineCount) :
    rowWidth (r.numberText lineCount line) = r.gutter lineCount := by
  rw [Text.rowWidth_of_isLabel fun _ => isLabel_of_mem_numberText, length_numberText h]

/-! ### A row -/

/-- A row is no wider than the screen, unless the gutter alone is. -/
theorem rowWidth_rowText_le (columns : Nat) {v : View} {line : Nat}
    (h : line < v.document.lineCount) :
    rowWidth (r.rowText columns v line) ≤ max columns (r.gutter v.document.lineCount) := by
  have hfront := rowWidth_fitting_le (columns - r.gutter v.document.lineCount)
    (v.document.lines[line]?.getD [])
  rw [rowText, Text.rowWidth_append, rowWidth_numberText h]
  omega

/-- No newline is written but those that end a row: lines are split at them, and numbers have
none. -/
theorem newline_notMem_rowText (r : Renderer) (columns : Nat) (v : View) (line : Nat) :
    '\n' ∉ r.rowText columns v line := by
  rw [rowText, List.mem_append, not_or]
  refine ⟨fun h => absurd (le_toNat_of_mem_numberText h) (by decide), fun h => ?_⟩
  have hline := (fitting_front _ _).subset h
  cases htext : v.document.lines[line]? with
  | none =>
    rw [htext] at hline
    cases hline
  | some text =>
    rw [htext] at hline
    obtain ⟨-, -, hnewline, -⟩ := Document.exists_lineStart htext
    exact hnewline hline

/-- A row is the number of its line, padded to the width of the gutter, and the longest front of the
line that the rest of the screen has room for. -/
theorem exists_row (r : Renderer) (columns : Nat) (v : View) {i : Nat}
    (hi : i < v.visibleLines.length) :
    let d := v.document
    let numberWidth := if r.lineNumbers then max 3 (Text.ofNat d.lineCount).length + 1 else 0
    ∃ line number front, d.lines[v.topLine + i]? = some line ∧
      (v.visibleLines.map (r.rowText columns v))[i]? = some (number ++ front) ∧
      number = (if r.lineNumbers then
        Text.padLeft (numberWidth - 1) (Text.ofNat (v.topLine + i + 1)) ++ [' '] else []) ∧
      number.length = numberWidth ∧ rowWidth number = numberWidth ∧
      LongestFront (columns - numberWidth) line front := by
  intro d numberWidth
  have hgutter : r.gutter d.lineCount = numberWidth := r.gutter_eq d.lineCount
  have hline : v.topLine + i < d.lineCount := by
    rw [View.length_visibleLines] at hi
    change _ < v.document.lineCount
    omega
  obtain ⟨line, hget⟩ := Document.exists_line_of_lt hline
  have hrow : (v.visibleLines.map (r.rowText columns v))[i]? =
      some (r.rowText columns v (v.topLine + i)) := by
    rw [List.getElem?_map, List.getElem?_eq_getElem hi]
    simp [View.visibleLines]
  refine ⟨line, r.numberText d.lineCount (v.topLine + i), fitting (columns - numberWidth) line,
    hget, ?_, ?_, ?_, ?_, longestFront_fitting _ _⟩
  · rw [hrow, rowText, hgutter, hget]
    rfl
  · rw [numberText, hgutter]
  · rw [length_numberText hline, hgutter]
  · rw [rowWidth_numberText hline, hgutter]

/-- **Rows fit the screen, and nothing is dropped that fits.**  In a view that was made from a text,
whatever was done to it, there is a row for each line that the viewport has room for, at least one.
A row is the number of the line, if lines are numbered, with blanks in front of it to the same width
for all lines, and behind it as much of the front of the line as the screen has room for.  No row is
wider than the screen or the numbers, and the mode line below them is not wider than the screen. -/
theorem rows_render (r : Renderer) (text : List Char) (height : Nat)
    (commands : List View.Command) (columns : Nat) {name : List Char} (hname : '\n' ∉ name) :
    let v := (View.new text height).run commands
    let d := v.document
    let numberWidth := if r.lineNumbers then max 3 (Text.ofNat d.lineCount).length + 1 else 0
    let mode := modeLine columns (v.status name)
    ∃ rows : List (List Char),
      (r.render ⟨columns, false⟩ v name).1 = (rows ++ [mode]).flatMap (· ++ ['\n']) ∧
      (∀ row ∈ rows ++ [mode], '\n' ∉ row) ∧
      rows.length = min v.height (d.lineCount - v.topLine) ∧ 1 ≤ rows.length ∧
      (∀ i < rows.length, ∃ line number front, d.lines[v.topLine + i]? = some line ∧
        rows[i]? = some (number ++ front) ∧
        number = (if r.lineNumbers then
          Text.padLeft (numberWidth - 1) (Text.ofNat (v.topLine + i + 1)) ++ [' '] else []) ∧
        number.length = numberWidth ∧ rowWidth number = numberWidth ∧
        LongestFront (columns - numberWidth) line front) ∧
      (∀ row ∈ rows, rowWidth row ≤ max columns numberWidth) ∧ rowWidth mode ≤ columns := by
  intro v d numberWidth mode
  have hsound : v.Sound := View.sound_run (View.sound_new text height) commands
  have hgutter : r.gutter d.lineCount = numberWidth := r.gutter_eq d.lineCount
  have hcount : (v.visibleLines.map (r.rowText columns v)).length =
      min v.height (d.lineCount - v.topLine) := by
    rw [List.length_map]
    exact v.length_visibleLines
  refine ⟨v.visibleLines.map (r.rowText columns v), r.render_eq_of_not_color rfl v name, ?_, hcount,
    ?_, fun i hi => r.exists_row columns v (by rwa [List.length_map] at hi), ?_,
    rowWidth_modeLine_le columns _⟩
  · rw [List.forall_mem_append, List.forall_mem_map, List.forall_mem_singleton]
    exact ⟨fun line _ => r.newline_notMem_rowText columns v line,
      fun h => hname (mem_name_of_mem_modeLine h (by decide))⟩
  · have hheight := hsound.height_pos
    have htop : v.topLine < d.lineCount := hsound.topLine_lt
    omega
  · rw [List.forall_mem_map, ← hgutter]
    exact fun line hline => rowWidth_rowText_le columns (View.lt_lineCount_of_mem_visibleLines hline)

set_option maxRecDepth 10000 in
/-- The last two of three lines on a screen of seven columns, where the first wide character has no
room. -/
theorem rows_render_of_wide :
    let v := (View.new "X:1\nT:你好\nK:C".toList 2).run [.moveCursor 99]
    let out := (Renderer.render { lineNumbers := true } ⟨7, false⟩ v ['é']).1
    '\n' ∉ ['é'] ∧ v.topLine = 1 ∧ out = "  2 T:\n  3 K:C\n-- abce\n".toList ∧
      ∃ rows : List (List Char), out = (rows ++ ["-- abce".toList]).flatMap (· ++ ['\n']) ∧
        rows.length = 2 ∧ (∀ row ∈ rows, rowWidth row ≤ 7) ∧
        ∃ number front, rows[0]? = some (number ++ front) ∧ number.length = 4 ∧
          LongestFront 3 "T:你好".toList front := by
  intro v out
  have hname : '\n' ∉ ['é'] := by decide
  have hout : (Renderer.render { lineNumbers := true } ⟨7, false⟩ v ['é']).1 =
      "  2 T:\n  3 K:C\n-- abce\n".toList := by decide +kernel
  obtain ⟨rows, hprint, -, hcount, -, hrows, hwidth, -⟩ := rows_render { lineNumbers := true }
    "X:1\nT:你好\nK:C".toList 2 [.moveCursor 99] 7 hname
  have hmode : modeLine 7 (v.status ['é']) = "-- abce".toList := by decide
  have hlines : min v.height (v.document.lineCount - v.topLine) = 2 := by decide
  have hlength : rows.length = 2 := hcount.trans hlines
  have hdigits : (Text.ofNat v.document.lineCount).length = 1 := by decide
  have hget : v.document.lines[v.topLine + 0]? = some "T:你好".toList := by decide
  obtain ⟨line, number, front, hline, hrow, -, hnumber, -, hfront⟩ := hrows 0 (by omega)
  obtain rfl : line = "T:你好".toList := Option.some.inj (hline.symm.trans hget)
  rw [if_pos rfl, hdigits] at hwidth hnumber hfront
  refine ⟨hname, by decide, hout, rows, ?_, hlength, hwidth, number, front, hrow, hnumber, hfront⟩
  rw [← hmode]
  exact hprint

end Renderer
end TuneEditor
