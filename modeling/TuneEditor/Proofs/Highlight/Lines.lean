/-
# Lines highlighted one after the other

The plain way to highlight the last of some lines is to go through all of them
and to carry the region along (`lastHighlight`).  `highlightLines` keeps what
comes up on the way: the highlighting of a line in a text is that of the last
line of the text up to there (`getElem?_highlightLines`), and the first lines
are highlighted in the same way whatever follows them (`highlightLines_append`).
-/

import TuneEditor.Highlight.Line

namespace TuneEditor

/-- The highlighting of the last of some lines, of which the first begins in a region.  Of no lines
it is nothing, with that region behind it. -/
def lastHighlight (region : Region) (lines : List (List Char)) : LineHighlight :=
  lines.foldl (fun h line => highlightLine h.after line) ⟨[], region⟩

/-- Only the region of what came before a line counts for it. -/
theorem lastHighlight_cons (region : Region) (line : List Char) {lines : List (List Char)}
    (h : lines ≠ []) :
    lastHighlight region (line :: lines) =
      lastHighlight (highlightLine region line).after lines := by
  cases lines with
  | nil => exact absurd rfl h
  | cons next lines => rfl

/-- The region behind some lines is that behind all but the first, begun in the region behind that
one. -/
theorem after_lastHighlight_cons (region : Region) (line : List Char)
    (lines : List (List Char)) :
    (lastHighlight region (line :: lines)).after =
      (lastHighlight (highlightLine region line).after lines).after := by
  cases lines with
  | nil => rfl
  | cons next lines => rfl

/-- More lines are highlighted from the region on in which those in front of them end. -/
theorem highlightLines_append (region : Region) (lines lines' : List (List Char)) :
    highlightLines region (lines ++ lines') =
      highlightLines region lines ++ highlightLines (lastHighlight region lines).after lines' := by
  induction lines generalizing region with
  | nil => rfl
  | cons line lines ih =>
    rw [List.cons_append, highlightLines, highlightLines, ih, after_lastHighlight_cons]
    rfl

/-- The first lines are highlighted in the same way whatever follows them. -/
theorem take_highlightLines (region : Region) (lines : List (List Char)) (n : Nat) :
    (highlightLines region lines).take n = highlightLines region (lines.take n) := by
  induction lines generalizing region n with
  | nil => simp [highlightLines]
  | cons line lines ih =>
    cases n with
    | zero => rfl
    | succ n => simp [highlightLines, ih]

/-- The highlighting of a line is that of the last line of the text up to there. -/
theorem getElem?_highlightLines (region : Region) {lines : List (List Char)} {i : Nat}
    (h : i < lines.length) :
    (highlightLines region lines)[i]? = some (lastHighlight region (lines.take (i + 1))) := by
  induction lines generalizing region i with
  | nil => cases h
  | cons line lines ih =>
    cases i with
    | zero => rfl
    | succ i =>
      have hi : i < lines.length := Nat.lt_of_succ_lt_succ h
      have hne : lines.take (i + 1) ≠ [] := by
        rw [Ne, List.take_eq_nil_iff]
        rintro (h₀ | rfl)
        · cases h₀
        · cases hi
      rw [highlightLines, List.getElem?_cons_succ, ih _ hi, List.take_succ_cons,
        lastHighlight_cons region line hne]

end TuneEditor
