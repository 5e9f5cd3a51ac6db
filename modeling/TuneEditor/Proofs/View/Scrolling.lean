/-
# What scrolling keeps around a line

A line is in view with a margin if so many lines of the text are in view above it and
below it (`InView`).  The margin that a scroll keeps is the one it was asked for, as far
as the rows are enough for it and as far as the text goes (`InMargin`).

| after | what is so |
|---|---|
| any scrolling | the line is in view with the margin (`inMargin_scrollIntoView`) |
| scrolling once more | the same as after scrolling once (`scrollIntoView_scrollIntoView`) |
| scrolling that is not centered | the viewport stays if it can (`scrollIntoView_eq_self_iff`) |

It can stay where the margin is there and no row below the text is shown for nothing.
All of it holds for every view that was made from a text and is alive
(`scrollIntoView_run`), also for one whose viewport hangs over the end of a text that
became shorter.
-/

import TuneEditor.Proofs.View.Soundness

namespace TuneEditor

/-- Of the first numbers, those in an interval. -/
theorem countP_range_interval (a b n : Nat) :
    (List.range n).countP (fun i => decide (a ≤ i) && decide (i < b)) = min n b - a := by
  induction n with
  | zero => simp
  | succ n ih =>
    rw [List.range_succ, List.countP_append, ih, List.countP_singleton]
    split
    · next h =>
      simp only [Bool.and_eq_true, decide_eq_true_eq] at h
      omega
    · next h =>
      simp only [Bool.and_eq_true, decide_eq_true_eq] at h
      omega

namespace View

/-- The number of lines of the text in view above a line. -/
def linesAbove (v : View) (line : Nat) : Nat :=
  (List.range v.document.lineCount).countP fun i => v.isLineVisible i && decide (i < line)

/-- The number of lines of the text in view below a line. -/
def linesBelow (v : View) (line : Nat) : Nat :=
  (List.range v.document.lineCount).countP fun i => v.isLineVisible i && decide (line < i)

/-- A line is in view, with at least so many lines of the text above it and below it. -/
structure InView (v : View) (line above below : Nat) : Prop where
  visible : v.isLineVisible line = true
  above_le : above ≤ v.linesAbove line
  below_le : below ≤ v.linesBelow line

variable {v : View}

/-- The lines in view above a line, counted from the bounds of the viewport. -/
theorem linesAbove_eq (line : Nat) :
    v.linesAbove line = min v.document.lineCount (min (v.topLine + v.height) line) - v.topLine := by
  rw [← countP_range_interval]
  refine List.countP_congr fun i _ => ?_
  simp only [isLineVisible, Bool.and_eq_true, decide_eq_true_eq]
  omega

/-- The lines in view below a line, counted in the same way. -/
theorem linesBelow_eq (line : Nat) :
    v.linesBelow line =
      min v.document.lineCount (v.topLine + v.height) - max v.topLine (line + 1) := by
  rw [← countP_range_interval]
  refine List.countP_congr fun i _ => ?_
  simp only [isLineVisible, Bool.and_eq_true, decide_eq_true_eq]
  omega

/-- A line of the text is in view with a margin if the margin is between it and the ends of the
viewport, and between it and the end of the text. -/
theorem inView_iff {line above below : Nat} (h : line < v.document.lineCount) :
    v.InView line above below ↔
      v.topLine + above ≤ line ∧ line + below < v.topLine + v.height ∧
        line + below < v.document.lineCount := by
  constructor
  · rintro ⟨hvisible, habove, hbelow⟩
    rw [isLineVisible_iff] at hvisible
    rw [linesAbove_eq] at habove
    rw [linesBelow_eq] at hbelow
    omega
  · rintro ⟨habove, hbelow, hend⟩
    refine ⟨isLineVisible_iff.2 (by omega), ?_, ?_⟩
    · rw [linesAbove_eq]
      omega
    · rw [linesBelow_eq]
      omega

/-- Who asks for fewer lines around a line is content as well. -/
theorem InView.mono {line above below above' below' : Nat} (h : v.InView line above below)
    (habove : above' ≤ above) (hbelow : below' ≤ below) : v.InView line above' below' :=
  ⟨h.visible, Nat.le_trans habove h.above_le, Nat.le_trans hbelow h.below_le⟩

/-- The line where a selection starts is in view, with the margin of a scroll or with all the lines
that the text has on that side. -/
def InMargin (v : View) (s : Selection) (o : Scroll) : Prop :=
  let line := (v.document.position s.start).line
  v.InView line (min (v.keptMargin o) line) (min (v.keptMargin o) (v.document.lineCount - 1 - line))

/-- A margin is kept just if the viewport begins so far above the line where the selection starts
and ends so far below it, as far as there are lines. -/
theorem inMargin_iff (v : View) (s : Selection) (o : Scroll) :
    v.InMargin s o ↔
      v.topLine + min (v.keptMargin o) (v.document.position s.start).line ≤
          (v.document.position s.start).line ∧
        min ((v.document.position s.start).line + v.keptMargin o) (v.document.lineCount - 1) <
          v.topLine + v.height := by
  have hline := v.document.line_position_lt s.start
  rw [InMargin, inView_iff hline]
  omega

/-- Scrolling ends no lower than the lowest position. -/
theorem topLine_scrollIntoView_le (halive : v.alive = true) (s : Selection) (o : Scroll) :
    (v.scrollIntoView s o).topLine ≤ v.maxTopLine := by
  rw [scrollIntoView_of_alive halive]
  exact Nat.min_le_right _ _

/-- **Scrolling leaves the margin around the line.** -/
theorem inMargin_scrollIntoView (halive : v.alive = true) (h : 0 < v.height) (s : Selection)
    (o : Scroll) : (v.scrollIntoView s o).InMargin s o := by
  have hline := v.document.line_position_lt s.start
  obtain ⟨habove, hbelow⟩ := topLineFor_margin h (v.document.position s.start).line o
  rw [scrollIntoView_of_alive halive, inMargin_iff]
  unfold maxTopLine keptMargin at *
  dsimp only
  omega

/-- **Scrolling that is not centered moves the viewport only if it has to**, for the margin or for
rows that show nothing below the text. -/
theorem scrollIntoView_eq_self_iff (halive : v.alive = true) (h : 0 < v.height) (s : Selection)
    {o : Scroll} (hcentered : o.centered = false) :
    v.scrollIntoView s o = v ↔ v.topLine ≤ v.maxTopLine ∧ v.InMargin s o := by
  constructor
  · intro hself
    have hmax := topLine_scrollIntoView_le halive s o
    have hmargin := inMargin_scrollIntoView halive h s o
    rw [hself] at hmax hmargin
    exact ⟨hmax, hmargin⟩
  · rintro ⟨hmax, hmargin⟩
    have htop : min (v.topLineFor (v.document.position s.start).line o) v.maxTopLine =
        v.topLine := by
      rw [inMargin_iff] at hmargin
      rw [topLineFor_eq, hcentered, if_neg Bool.false_ne_true]
      unfold maxTopLine at *
      split
      · omega
      · split <;> omega
    rw [scrollIntoView_of_alive halive, htop]

/-- **Scrolling twice is scrolling once.** -/
theorem scrollIntoView_scrollIntoView (h : 0 < v.height) (s : Selection) (o : Scroll) :
    (v.scrollIntoView s o).scrollIntoView s o = v.scrollIntoView s o := by
  cases halive : v.alive with
  | false => simp [scrollIntoView, halive]
  | true =>
    have hmax := topLine_scrollIntoView_le halive s o
    have hmargin := inMargin_scrollIntoView halive h s o
    rw [scrollIntoView_of_alive halive] at hmax hmargin ⊢
    cases hcentered : o.centered with
    | true => simp [scrollIntoView, halive, topLineFor, hcentered, maxTopLine]
    | false =>
      refine (scrollIntoView_eq_self_iff ?_ ?_ s hcentered).2 ⟨hmax, hmargin⟩
      · exact halive
      · exact h

/-- **Scrolling brings a line into view with a margin.**  In a view that was made from a text and is
alive, whatever was done to it, scrolling to any offset, also one past the end of the text, puts the
viewport where no row below the text is shown for nothing, with the line in it and with the margin on
both sides of the line, as far as the text goes.  Nothing else changes, a second time not even the
viewport; and if the scrolling is not centered, the viewport stays where the margin was there
already. -/
theorem scrollIntoView_run (text : List Char) (height : Nat) (commands : List Command)
    (halive : ((new text height).run commands).alive = true) (s : Selection) (o : Scroll) :
    let v := (new text height).run commands
    let v' := v.scrollIntoView s o
    let line := (v.document.position (min s.start v.document.size)).line
    let margin := min o.margin ((v.height - 1) / 2)
    v'.topLine ≤ v.document.lineCount - v.height ∧
      v'.InView line (min margin line) (min margin (v.document.lineCount - 1 - line)) ∧
      v' = { v with topLine := v'.topLine } ∧ v'.outbox = v.outbox ∧
      v'.scrollIntoView s o = v' ∧
      (o.centered = false → v.topLine ≤ v.document.lineCount - v.height →
        v.InView line margin margin → v'.topLine = v.topLine) := by
  intro v v' line margin
  have hheight : 0 < v.height := (sound_run (sound_new text height) commands).height_pos
  have hline : line = (v.document.position s.start).line :=
    congrArg Position.line (v.document.position_min s.start)
  have hmargin : v'.InMargin s o := inMargin_scrollIntoView halive hheight s o
  have heq : v' = { v with
      topLine := min (v.topLineFor (v.document.position s.start).line o) v.maxTopLine } :=
    scrollIntoView_of_alive halive s o
  refine ⟨topLine_scrollIntoView_le halive s o, ?_, ?_, ?_,
    scrollIntoView_scrollIntoView hheight s o, fun hcentered hmax hview => ?_⟩
  · rw [hline]
    rw [heq] at hmargin ⊢
    exact hmargin
  · rw [heq]
  · rw [heq]
  · rw [hline] at hview
    have hself : v' = v := (scrollIntoView_eq_self_iff halive hheight s hcentered).2
      ⟨hmax, hview.mono (Nat.min_le_left _ _) (Nat.min_le_left _ _)⟩
    rw [hself]

/-- Two lines are deleted under a viewport of three rows, so that it hangs over the end of the text,
and the viewport goes back up when it is scrolled to an offset past the end. -/
theorem scrollIntoView_run_of_deleted :
    let v := (new "a\nb\nc\nd\ne".toList 3).run [.moveCursor 9, .deleteBackward, .deleteBackward]
    let v' := v.scrollIntoView ⟨99, 0⟩ { centered := false, margin := 7 }
    v.alive = true ∧ v.topLine = 2 ∧ v.document.lineCount = 4 ∧
      v'.topLine ≤ 1 ∧ v'.InView 3 1 0 ∧ v'.scrollIntoView ⟨99, 0⟩ ⟨false, 7⟩ = v' := by
  intro v v'
  have halive : v.alive = true := by decide
  obtain ⟨hmax, hview, -, -, htwice, -⟩ :=
    scrollIntoView_run "a\nb\nc\nd\ne".toList 3 [.moveCursor 9, .deleteBackward, .deleteBackward]
      halive ⟨99, 0⟩ { centered := false, margin := 7 }
  exact ⟨halive, by decide, by decide, hmax, hview, htwice⟩

end View
end TuneEditor
