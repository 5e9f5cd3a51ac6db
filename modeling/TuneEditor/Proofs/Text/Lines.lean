/-
# A text is a line, or a line and more text behind a newline

`Text.lines` cuts a text at its newlines.  What holds of single lines, and goes
from the text behind the first newline to the whole, holds of every text
(`lines_induction`); and the lines of a text are found in the same two cases
(`lines_of_notMem`, `lines_append`).
-/

import TuneEditor.Text.Blank

namespace TuneEditor
namespace Text

/-- A text without newlines is one line. -/
theorem lines_of_notMem {cs : List Char} (h : '\n' ∉ cs) : lines cs = [cs] :=
  List.splitOn_eq_singleton h

/-- The text in front of the first newline is the first line. -/
theorem lines_append {line : List Char} (h : '\n' ∉ line) (rest : List Char) :
    lines (line ++ '\n' :: rest) = line :: lines rest :=
  List.splitOn_append_cons_self_of_not_mem h rest

/-- A text without a newline, or its first line and what stands behind the newline. -/
theorem notMem_or_exists_append (cs : List Char) :
    '\n' ∉ cs ∨ ∃ line rest, '\n' ∉ line ∧ cs = line ++ '\n' :: rest := by
  by_cases h : '\n' ∈ cs
  · obtain ⟨line, rest, hcs, hline⟩ := List.eq_append_cons_of_mem h
    exact .inr ⟨line, rest, hline, hcs⟩
  · exact .inl h

/-- Induction from the last line of a text to the first. -/
theorem lines_induction {motive : List Char → Prop} (last : ∀ line, '\n' ∉ line → motive line)
    (next : ∀ line rest, '\n' ∉ line → motive rest → motive (line ++ '\n' :: rest))
    (cs : List Char) : motive cs := by
  induction h : cs.length using Nat.strongRecOn generalizing cs with
  | ind n ih =>
    rcases notMem_or_exists_append cs with hcs | ⟨line, rest, hline, rfl⟩
    · exact last cs hcs
    · have hlt : rest.length < n := by
        rw [← h, List.length_append, List.length_cons]
        omega
      exact next line rest hline (ih _ hlt rest rfl)

/-- A newline behind a first line is the one that ends it, or is behind that one. -/
theorem newline_of_append {line rest before after : List Char} (h : '\n' ∉ line)
    (heq : line ++ '\n' :: rest = before ++ '\n' :: after) :
    before = line ∨
      ∃ before', before = line ++ '\n' :: before' ∧ rest = before' ++ '\n' :: after := by
  rcases List.append_eq_append_iff.1 heq with ⟨gap, hbefore, hrest⟩ | ⟨gap, hline, hafter⟩
  · cases gap with
    | nil => exact .inl (by rw [hbefore, List.append_nil])
    | cons c gap =>
      obtain ⟨rfl, htail⟩ := List.cons.inj hrest
      exact .inr ⟨gap, hbefore, htail⟩
  · cases gap with
    | nil => exact .inl (by rw [hline, List.append_nil])
    | cons c gap =>
      obtain ⟨rfl, -⟩ := List.cons.inj hafter
      refine absurd ?_ h
      rw [hline]
      exact List.mem_append_right _ List.mem_cons_self

end Text
end TuneEditor
