/-
# Offsets and positions are two names of one place

An offset in a text is a column of one of its lines, and each column of a line,
that behind its last character included, is an offset.  The line starts so many
characters in front of the offset as the column says.

| from | to | by |
|---|---|---|
| an offset | its line and its column | `exists_column` |
| a line and a column of it | an offset, and back | `exists_lineStart` |

Both are found line by line: an offset is in the first line, or as far behind its
newline as it is in the rest of the text.  An offset past the end means the end.

Going on in a text never leads to a smaller position, where lines count before
columns (`monotone_position`).
-/

import Mathlib.Data.Prod.Lex
import TuneEditor.Proofs.Document

namespace TuneEditor

namespace Position

/-- What positions are compared by: first the line, then the column. -/
def key (p : Position) : ℕ ×ₗ ℕ :=
  toLex (p.line, p.column)

/-- A character leads further in its line, or to the next one. -/
theorem key_le_key_advance (p : Position) (c : Char) : p.key ≤ (p.advance c).key := by
  unfold advance key
  rw [Prod.Lex.toLex_le_toLex]
  split
  · exact .inl (Nat.lt_succ_self _)
  · exact .inr ⟨rfl, Nat.le_succ _⟩

/-- Going on in a text never leads back to an earlier position. -/
theorem key_le_key_foldl_advance (cs : List Char) (p : Position) :
    p.key ≤ (cs.foldl advance p).key := by
  induction cs generalizing p with
  | nil => exact le_rfl
  | cons c cs ih => exact (p.key_le_key_advance c).trans (ih (p.advance c))

end Position

namespace Document

variable {d : Document}

/-- **Positions are in the order of the offsets.** -/
theorem monotone_position (d : Document) : Monotone fun offset => (d.position offset).key := by
  intro offset offset' hle
  obtain ⟨more, rfl⟩ := Nat.exists_eq_add_of_le hle
  change (d.position offset).key ≤ (d.position (offset + more)).key
  unfold position
  rw [List.take_add, List.foldl_append]
  exact Position.key_le_key_foldl_advance _ _

/-- **Every offset in a text is a column of one of its lines.** -/
theorem exists_column {cs : List Char} {offset : Nat} (h : offset ≤ cs.length) :
    ∃ (n : Nat) (text : List Char) (start column : Nat), (Text.lines cs)[n]? = some text ∧
      offsetAfterNewlines? n cs = some start ∧ column ≤ text.length ∧ start + column = offset := by
  induction cs using Text.lines_induction generalizing offset with
  | last line hline =>
    refine ⟨0, line, 0, offset, ?_, offsetAfterNewlines?_zero line, h, Nat.zero_add offset⟩
    rw [Text.lines_of_notMem hline]
    rfl
  | next line rest hline ih =>
    rw [Text.lines_append hline]
    by_cases hfirst : offset ≤ line.length
    · exact ⟨0, line, 0, offset, rfl, offsetAfterNewlines?_zero _, hfirst, Nat.zero_add offset⟩
    · rw [List.length_append, List.length_cons] at h
      -- The offset in the text behind the newline.
      obtain ⟨n, text, start, column, htext, hstart, hcolumn, hoffset⟩ :=
        @ih (offset - (line.length + 1)) (by omega)
      refine ⟨n + 1, text, line.length + 1 + start, column, htext, ?_, hcolumn, by omega⟩
      rw [offsetAfterNewlines?_append hline, hstart]
      rfl

/-- No line starts behind more newlines than the text has. -/
theorem le_count_of_offsetAfterNewlines? {n start : Nat} {cs : List Char}
    (h : offsetAfterNewlines? n cs = some start) : n ≤ cs.count '\n' := by
  induction cs generalizing n start with
  | nil =>
    cases n with
    | zero => exact Nat.zero_le _
    | succ n => cases h
  | cons c cs ih =>
    cases n with
    | zero => exact Nat.zero_le _
    | succ n =>
      obtain ⟨start', hstart, -⟩ := Option.map_eq_some_iff.1 h
      have hle := ih hstart
      by_cases hc : c = '\n'
      · rw [if_pos hc] at hle
        rw [hc, List.count_cons_self]
        omega
      · rw [if_neg hc] at hle
        rw [List.count_cons_of_ne hc]
        exact hle

/-- Below the number of lines there is a line. -/
theorem exists_line_of_lt {line : Nat} (h : line < d.lineCount) :
    ∃ text, d.lines[line]? = some text := by
  rw [← length_lines_eq] at h
  exact ⟨_, List.getElem?_eq_getElem h⟩

/-- A line has a start just if it is one of the text. -/
theorem isSome_lineStart?_iff {line : Nat} :
    (d.lineStart? line).isSome = true ↔ line < d.lineCount := by
  constructor
  · intro hsome
    obtain ⟨start, hstart⟩ := Option.isSome_iff_exists.1 hsome
    exact Nat.lt_succ_of_le (le_count_of_offsetAfterNewlines? hstart)
  · intro hlt
    obtain ⟨text, htext⟩ := exists_line_of_lt hlt
    obtain ⟨start, hstart, -⟩ := exists_lineStart htext
    rw [hstart]
    rfl

/-- The line of an offset starts as many characters in front of it as its column says, or in front
of the end of the text. -/
theorem lineStart?_position (d : Document) (offset : Nat) :
    ∃ text start, d.lines[(d.position offset).line]? = some text ∧
      d.lineStart? (d.position offset).line = some start ∧
      (d.position offset).column ≤ text.length ∧
      start + (d.position offset).column = min offset d.size := by
  have hwithin : min offset d.size ≤ d.chars.length := by
    rw [← d.size_eq]
    exact Nat.min_le_right _ _
  obtain ⟨n, text, start, column, htext, hstart, hcolumn, hoffset⟩ := exists_column hwithin
  obtain ⟨start', hstart', -, hposition⟩ := exists_lineStart htext
  obtain rfl : start' = start := Option.some.inj (hstart'.symm.trans hstart)
  have hat : d.position offset = ⟨n, column⟩ := by
    rw [← d.position_min, ← hoffset]
    exact (hposition column hcolumn).1
  rw [hat]
  exact ⟨text, start', htext, hstart, hcolumn, hoffset⟩

/-- **Offsets and positions correspond one to one.**  A text has a line at least, as many
lines as it says, and nothing is lost in them but the newlines; each of them starts
somewhere, and no other line.  Every offset, or the end of the text for an offset past it,
has a position in a line of the text, and it is as far behind the start of that line as the
column says.  Every position in a line of the text is that of the offset so far behind the
start of the line.  Positions are in the order of the offsets. -/
theorem offsets_correspond (d : Document) :
    (d.lines.length = d.lineCount ∧ 1 ≤ d.lineCount ∧ ['\n'].intercalate d.lines = d.chars) ∧
    (∀ line, (d.lineStart? line).isSome = true ↔ line < d.lineCount) ∧
    (∀ offset,
      let p := d.position offset
      p.line < d.lineCount ∧ (∃ text, d.lines[p.line]? = some text ∧ p.column ≤ text.length) ∧
        p.column ≤ min offset d.size ∧
        d.lineStart? p.line = some (min offset d.size - p.column)) ∧
    (∀ line < d.lineCount, ∃ text start, d.lines[line]? = some text ∧
      d.lineStart? line = some start ∧
      ∀ column ≤ text.length, d.position (start + column) = ⟨line, column⟩) ∧
    Monotone fun offset => (d.position offset).key := by
  refine ⟨⟨d.length_lines_eq, d.lineCount_pos, Text.intercalate_lines d.chars⟩,
    fun line => isSome_lineStart?_iff, fun offset => ?_, fun line hline => ?_, d.monotone_position⟩
  · obtain ⟨text, start, htext, hstart, hcolumn, hoffset⟩ := d.lineStart?_position offset
    have hbehind : start = min offset d.size - (d.position offset).column := by omega
    refine ⟨d.line_position_lt offset, ⟨text, htext, hcolumn⟩, by omega, ?_⟩
    rw [hstart, hbehind]
  · obtain ⟨text, htext⟩ := exists_line_of_lt hline
    obtain ⟨start, hstart, -, hposition⟩ := exists_lineStart htext
    exact ⟨text, start, htext, hstart, fun column hcolumn => (hposition column hcolumn).1⟩

end Document
end TuneEditor
