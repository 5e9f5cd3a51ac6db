/-
# Highlighting by lines and in one go

A text can be highlighted line by line, with the region carried from each line
to the next, or in one scan.  Put back to where the lines start (`shifted`), the
spans of the lines are the spans of the text just if no chord of the scan takes
a newline, and then both leave the text in the same region
(`shifted_highlightLines_iff`).

One way a scan of the text is in step with the scans of the lines
(`inStep_of_notMem`).  The other way no span of a line takes the newline behind
it (`not_takes_of_mem_shifted`), so that a chord that takes one cannot be among
them.
-/

import TuneEditor.Proofs.Highlight.Lines
import TuneEditor.Proofs.Notation.Newlines
import TuneEditor.Proofs.Text.Lines

namespace TuneEditor

/-- A span of a part of a text that starts at a byte, in the text. -/
def Span.moved (n : Nat) (s : Span) : Span :=
  ⟨n + s.start, n + s.stop, s.tag⟩

/-- The spans of lines in the text that they make up, of which the first starts at a byte. -/
def shifted (start : Nat) : List (List Char) → List LineHighlight → List Span
  | line :: lines, h :: hs =>
    h.spans.map (Span.moved start) ++ shifted (start + Utf8.size line + 1) lines hs
  | _, _ => []

/-- From a position up to another a text has a newline. -/
def TakesNewline (cs : List Char) (start stop : Nat) : Prop :=
  ∃ before after : List Char,
    cs = before ++ '\n' :: after ∧ start ≤ Utf8.size before ∧ Utf8.size before < stop

/-! ### The scan of a text by its marks -/

/-- The spans of a text that starts at a byte and at a place. -/
def spansFrom (start : Nat) (p : Place) (cs : List Char) : List Span :=
  (marks start p cs).filterMap fun m => Span.ofStep? (.ofPlaced m)

/-- From the first byte on the spans are those of the whole text. -/
theorem spansFrom_zero (region : Region) (cs : List Char) :
    spansFrom 0 ⟨region, true⟩ cs = (steps region cs).filterMap Span.ofStep? := by
  unfold spansFrom marks steps
  rw [ofLexemes_eq_map_placed, List.filterMap_filter, List.filterMap_map]
  congr 1
  funext m
  cases h : m.2.tag with
  | none => simp [Span.ofStep?, Step.ofPlaced, h]
  | some t => simp

/-- A line is highlighted like a text of its own, from a line start on. -/
theorem spans_highlightLine (region : Region) (line : List Char) :
    (highlightLine region line).spans = spansFrom 0 ⟨region, true⟩ line :=
  (spansFrom_zero region line).symm

/-- Further on in a text the spans are those from its first byte on, moved. -/
theorem spansFrom_eq_map (start : Nat) (p : Place) (cs : List Char) :
    spansFrom start p cs = (spansFrom 0 p cs).map (Span.moved start) := by
  unfold spansFrom marks
  rw [← Nat.add_zero start, placed_add, Nat.add_zero, List.filter_map, List.filterMap_map,
    List.map_filterMap]
  congr 1
  funext m
  cases h : m.2.tag with
  | none => simp [Span.ofStep?, Step.ofPlaced, h]
  | some t => simp [Span.ofStep?, Step.ofPlaced, h, Span.moved, Nat.add_assoc]

/-- The region behind a line is the one in which a scan leaves it. -/
theorem after_highlightLine (region : Region) (cs : List Char) :
    (highlightLine region cs).after = behind ⟨region, true⟩ cs := by
  have hlast : (lexemes ⟨region, true⟩ cs).getLast? =
      (placed 0 (lexemes ⟨region, true⟩ cs)).getLast?.map Prod.snd := by
    rw [← List.getLast?_map, map_snd_placed]
  unfold highlightLine behind steps
  dsimp only
  rw [ofLexemes_eq_map_placed, List.getLast?_map, hlast]
  cases (placed 0 (lexemes ⟨region, true⟩ cs)).getLast? with
  | none => rfl
  | some m => rfl

/-- A span of a text is inside of it. -/
theorem bounds_of_mem_spansFrom {start : Nat} {p : Place} {cs : List Char} {s : Span}
    (h : s ∈ spansFrom start p cs) : start ≤ s.start ∧ s.stop ≤ start + Utf8.size cs := by
  obtain ⟨m, hm, hs⟩ := List.mem_filterMap.1 h
  obtain ⟨before, after, hchars, hstart⟩ := eq_append_of_mem_placed (List.mem_filter.1 hm).1
  obtain ⟨t, -, rfl⟩ := Option.map_eq_some_iff.1 hs
  rw [flatMap_chars_lexemes] at hchars
  simp only [Step.ofPlaced, hstart, hchars, Utf8.size_append]
  omega

/-! ### No chord crosses a line -/

/-- The spans of the lines are those of the text, and the region is carried to the same. -/
theorem shifted_highlightLines {cs : List Char} {start : Nat} {region : Region}
    (hchord : ∀ m ∈ marks start ⟨region, true⟩ cs, ¬ m.2.CrossesLine) :
    shifted start (Text.lines cs) (highlightLines region (Text.lines cs)) =
        spansFrom start ⟨region, true⟩ cs ∧
      (lastHighlight region (Text.lines cs)).after = behind ⟨region, true⟩ cs := by
  have hline : ∀ (start : Nat) (region : Region) (line : List Char),
      (highlightLine region line).spans.map (Span.moved start) =
        spansFrom start ⟨region, true⟩ line := by
    intro start region line
    rw [spans_highlightLine, ← spansFrom_eq_map]
  induction cs using Text.lines_induction generalizing start region with
  | last line h =>
    rw [Text.lines_of_notMem h]
    refine ⟨?_, after_highlightLine region line⟩
    rw [highlightLines, shifted, hline]
    exact List.append_nil _
  | next line rest h ih =>
    obtain ⟨hmarks, hbehind⟩ := inStep_of_notMem h rest hchord
    have hrest : ∀ m ∈ marks (start + Utf8.size line + 1) ⟨behind ⟨region, true⟩ line, true⟩ rest,
        ¬ m.2.CrossesLine := by
      intro m hm
      refine hchord m ?_
      rw [hmarks]
      exact List.mem_append_right _ hm
    obtain ⟨hspans, hafter⟩ := ih hrest
    rw [Text.lines_append h]
    constructor
    · rw [highlightLines, shifted, hline, after_highlightLine, hspans]
      unfold spansFrom
      rw [hmarks, List.filterMap_append]
    · rw [after_lastHighlight_cons, after_highlightLine, hafter, hbehind]

/-! ### A chord crosses a line -/

/-- No span of some lines begins in front of the first of them. -/
theorem le_of_mem_shifted {start : Nat} {region : Region} {lines : List (List Char)} {s : Span}
    (h : s ∈ shifted start lines (highlightLines region lines)) : start ≤ s.start := by
  induction lines generalizing start region with
  | nil => cases h
  | cons line lines ih =>
    rw [highlightLines, shifted] at h
    rcases List.mem_append.1 h with h | h
    · obtain ⟨t, -, rfl⟩ := List.mem_map.1 h
      exact Nat.le_add_right _ _
    · have := ih h
      omega

/-- No span of a line takes a newline of the text. -/
theorem not_takes_of_mem_shifted {cs : List Char} {start : Nat} {region : Region} {s : Span}
    (h : s ∈ shifted start (Text.lines cs) (highlightLines region (Text.lines cs)))
    {before after : List Char} (hcs : cs = before ++ '\n' :: after) :
    ¬ (s.start ≤ start + Utf8.size before ∧ start + Utf8.size before < s.stop) := by
  induction cs using Text.lines_induction generalizing start region before after with
  | last line hline =>
    refine absurd ?_ hline
    rw [hcs]
    exact List.mem_append_right _ List.mem_cons_self
  | next line rest hline ih =>
    rw [Text.lines_append hline, highlightLines, shifted] at h
    rcases List.mem_append.1 h with h | h
    · -- The span ends in the first line, and the newline is behind that.
      obtain ⟨t, ht, rfl⟩ := List.mem_map.1 h
      rw [spans_highlightLine] at ht
      have hstop := (bounds_of_mem_spansFrom ht).2
      rcases Text.newline_of_append hline hcs with rfl | ⟨before', rfl, -⟩
      · simp only [Span.moved]
        omega
      · simp only [Span.moved, Utf8.size_append]
        omega
    · rcases Text.newline_of_append hline hcs with rfl | ⟨before', rfl, hrest⟩
      · have := le_of_mem_shifted h
        omega
      · have := ih h hrest
        have hnewline : Char.utf8Size '\n' = 1 := by rfl
        rw [Utf8.size_append, Utf8.size_cons, hnewline]
        omega

/-- A chord of the scan that crosses a line is a step that takes a newline. -/
theorem exists_step_of_crossesLine {region : Region} {cs : List Char} {m : Nat × Lexeme}
    (hm : m ∈ marks 0 ⟨region, true⟩ cs) (h : m.2.CrossesLine) :
    ∃ s ∈ steps region cs, s.tag = some .chord ∧ TakesNewline cs s.start s.stop := by
  have hplaced := (List.mem_filter.1 hm).1
  obtain ⟨before, after, hchars, hstart⟩ := eq_append_of_mem_placed hplaced
  obtain ⟨inside, behind, hinside⟩ := List.append_of_mem h.2
  rw [flatMap_chars_lexemes] at hchars
  refine ⟨.ofPlaced m, ?_, h.1, before ++ inside, behind ++ after, ?_, ?_, ?_⟩
  · rw [steps, ofLexemes_eq_map_placed]
    exact List.mem_map_of_mem hplaced
  · rw [hchars, hinside]
    simp
  · rw [Utf8.size_append]
    simp only [Step.ofPlaced]
    omega
  · have hpos := Char.utf8Size_pos '\n'
    simp only [Step.ofPlaced, hinside, Utf8.size_append, Utf8.size_cons]
    omega

/-- **Lines are highlighted as the whole text is, just if no chord crosses a line.**  In that case
they also leave the text in the same region. -/
theorem shifted_highlightLines_iff (region : Region) (cs : List Char) :
    (shifted 0 (Text.lines cs) (highlightLines region (Text.lines cs)) =
        (steps region cs).filterMap Span.ofStep? ↔
      ∀ s ∈ steps region cs, s.tag = some .chord → ¬ TakesNewline cs s.start s.stop) ∧
    ((∀ s ∈ steps region cs, s.tag = some .chord → ¬ TakesNewline cs s.start s.stop) →
      (lastHighlight region (Text.lines cs)).after =
        ((steps region cs).getLast?.map Step.after).getD region) := by
  have hstep : (∀ s ∈ steps region cs, s.tag = some .chord → ¬ TakesNewline cs s.start s.stop) →
      ∀ m ∈ marks 0 ⟨region, true⟩ cs, ¬ m.2.CrossesLine := by
    intro hno m hm hcross
    obtain ⟨s, hs, htag, htakes⟩ := exists_step_of_crossesLine hm hcross
    exact hno s hs htag htakes
  refine ⟨⟨?_, ?_⟩, ?_⟩
  · intro heq s hs htag ⟨before, after, hcs, hstart, hstop⟩
    have hspan : (⟨s.start, s.stop, .chord⟩ : Span) ∈ (steps region cs).filterMap Span.ofStep? := by
      refine List.mem_filterMap.2 ⟨s, hs, ?_⟩
      rw [Span.ofStep?, htag]
      rfl
    rw [← heq] at hspan
    refine not_takes_of_mem_shifted hspan hcs ?_
    rw [Nat.zero_add]
    exact ⟨hstart, hstop⟩
  · intro hno
    rw [(shifted_highlightLines (hstep hno)).1, spansFrom_zero]
  · intro hno
    rw [(shifted_highlightLines (hstep hno)).2, ← after_highlightLine]
    rfl

/-- A key field, and a chord that its line closes. -/
theorem shifted_highlightLines_iff_of_closed :
    shifted 0 (Text.lines ['K', ':', '\n', '"', 'd', '"'])
        (highlightLines .header (Text.lines ['K', ':', '\n', '"', 'd', '"'])) =
        [⟨0, 2, .header⟩, ⟨3, 6, .chord⟩] ∧
      (lastHighlight .header (Text.lines ['K', ':', '\n', '"', 'd', '"'])).after = .body := by
  have heq : shifted 0 (Text.lines ['K', ':', '\n', '"', 'd', '"'])
      (highlightLines .header (Text.lines ['K', ':', '\n', '"', 'd', '"'])) =
        (steps .header ['K', ':', '\n', '"', 'd', '"']).filterMap Span.ofStep? := by
    decide +kernel
  have hspans : (steps .header ['K', ':', '\n', '"', 'd', '"']).filterMap Span.ofStep? =
      [⟨0, 2, .header⟩, ⟨3, 6, .chord⟩] := by
    decide +kernel
  have hafter : ((steps .header ['K', ':', '\n', '"', 'd', '"']).getLast?.map Step.after).getD
      .header = .body := by
    decide +kernel
  have hiff := shifted_highlightLines_iff .header ['K', ':', '\n', '"', 'd', '"']
  exact ⟨heq.trans hspans, (hiff.2 (hiff.1.1 heq)).trans hafter⟩

/-- A chord that crosses a line is two chords to the lines. -/
example :
    shifted 0 (Text.lines ['"', '\n', '"'])
        (highlightLines .body (Text.lines ['"', '\n', '"'])) = [⟨0, 1, .chord⟩, ⟨2, 3, .chord⟩] ∧
      (steps .body ['"', '\n', '"']).filterMap Span.ofStep? = [⟨0, 3, .chord⟩] := by
  constructor
  · decide +kernel
  · decide +kernel

end TuneEditor
