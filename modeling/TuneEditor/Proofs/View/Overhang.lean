/-
# When the viewport hangs over the end of the text

A viewport hangs over the end if rows of it show nothing below the last line while lines are
hidden above it (`Overhangs`).  It never begins to by anything but an edit.

| what is done | where the viewport is then |
|---|---|
| scrolling, a new height, a new text | no lower than the lowest position |
| following the cursor | no lower than before, or than the line of the cursor needs |
| another selection, and the rest | where it was |
| an edit | as after following the cursor, in a text that may be shorter |

An edit only follows the cursor, and does not put the viewport back up when lines are
taken away.  So it leaves the viewport hanging over the end just if both where the viewport
was and the line of the cursor are below the lowest position then
(`Follows.overhangs_iff`).  These edits are the only ones that matter for a whole run
(`never_overhangs_iff`).
-/

import Mathlib.Data.List.Induction
import TuneEditor.Proofs.View.Following

namespace TuneEditor
namespace View

/-- The viewport is below the lowest position that leaves no row empty while lines are hidden
above. -/
def Overhangs (v : View) : Prop :=
  v.maxTopLine < v.topLine

variable {v v' : View} {c : Command}

/-- Lines are hidden above it, and the last rows have no line to show. -/
theorem overhangs_iff :
    v.Overhangs ↔ 0 < v.topLine ∧ v.document.lineCount < v.topLine + v.height := by
  unfold Overhangs maxTopLine
  omega

/-- A fresh view begins at the first line, so no row is beyond the text that need not be. -/
theorem not_overhangs_new (text : List Char) (height : Nat) : ¬ (new text height).Overhangs :=
  Nat.not_lt_zero _

/-! ### Following the cursor -/

namespace Follows

/-- There is one place only to which a viewport can follow the cursor. -/
theorem topLine_eq_clamped (h : v.Follows v') :
    v'.topLine = max (v'.cursorLine + 1 - v'.height) (min v.topLine v'.cursorLine) := by
  obtain ⟨hle, hlt⟩ := isLineVisible_iff.1 h.visible
  by_contra hne
  have hthere : isLineVisible
      { v' with topLine := max (v'.cursorLine + 1 - v'.height) (min v.topLine v'.cursorLine) }
      v'.cursorLine = true := by
    rw [isLineVisible_iff]
    dsimp only
    omega
  have hnearer := h.nearest _ (Ne.symm hne) hthere
  unfold Nat.dist at hnearer
  omega

/-- **A viewport that followed the cursor hangs over the end just if it was below the lowest
position, and so is the cursor.** -/
theorem overhangs_iff (h : v.Follows v') :
    v'.Overhangs ↔ v'.maxTopLine < v.topLine ∧ v'.maxTopLine < v'.cursorLine := by
  have hcursor : v'.cursorLine < v'.document.lineCount := v'.document.line_position_lt v'.head
  unfold Overhangs maxTopLine
  rw [h.topLine_eq_clamped]
  omega

/-- It does not begin to if there are as many lines as before. -/
theorem not_overhangs (h : v.Follows v') (hlines : v.document.lineCount ≤ v'.document.lineCount)
    (hbefore : ¬ v.Overhangs) : ¬ v'.Overhangs := by
  rw [h.overhangs_iff]
  have hheight := h.height_eq
  unfold Overhangs maxTopLine at *
  omega

end Follows

/-- Selecting leaves the text as it is. -/
theorem document_select (v : View) (anchor head : Nat) :
    (v.select anchor head).document = v.document := by
  unfold select
  split
  · exact document_followed v _ _
  · rfl

/-- Selecting follows the cursor to a line of the text, and that never moves the viewport beyond its
end. -/
theorem not_overhangs_select (h : 0 < v.height) (hbefore : ¬ v.Overhangs) (anchor head : Nat) :
    ¬ (v.select anchor head).Overhangs := by
  by_cases halive : v.alive = true
  · refine (follows_select h halive anchor head).not_overhangs ?_ hbefore
    rw [document_select]
  · unfold select
    rw [if_neg halive]
    exact hbefore

/-! ### What puts the viewport back -/

/-- With another height the viewport is moved up to the lowest position. -/
theorem not_overhangs_setHeight (v : View) (height : Nat) : ¬ (v.setHeight height).Overhangs :=
  Nat.not_lt_of_le (Nat.min_le_right _ _)

/-- With another text it is, too. -/
theorem not_overhangs_replaceAll (halive : v.alive = true) (text : List Char) :
    ¬ (v.replaceAll text).Overhangs := by
  unfold replaceAll
  rw [if_pos halive]
  exact Nat.not_lt_of_le (Nat.min_le_right _ _)

/-- Scrolling ends there at the lowest. -/
theorem not_overhangs_scrollIntoView (halive : v.alive = true) (s : Selection) (o : Scroll) :
    ¬ (v.scrollIntoView s o).Overhangs := by
  rw [scrollIntoView_of_alive halive]
  exact Nat.not_lt_of_le (Nat.min_le_right _ _)

/-! ### Commands -/

/-- An edit that is made follows the cursor. -/
theorem follows_of_edited (h : 0 < v.height) (hc : (v.perform c).2 = .edited true) :
    v.Follows (v.act c) := by
  have hmade : v.perform c = (v.act c, .edited true) := Prod.ext rfl hc
  cases c with
  | insert text =>
    rw [perform_insert] at hmade
    exact follows_edit? h (eq_some_of_edited hmade)
  | deleteBackward =>
    rw [perform_deleteBackward] at hmade
    exact follows_deleteBackward? h (eq_some_of_edited hmade)
  | _ => cases hc

/-- A view that did not make an edit is as it was. -/
theorem getD_of_not_edited {edited : Option View}
    (h : Reply.edited edited.isSome ≠ .edited true) : edited.getD v = v := by
  cases edited with
  | none => rfl
  | some v' => exact absurd rfl h

/-- **Nothing but an edit makes the viewport hang over the end.** -/
theorem not_overhangs_act (h : 0 < v.height) (hc : (v.perform c).2 ≠ .edited true)
    (hbefore : ¬ v.Overhangs) : ¬ (v.act c).Overhangs := by
  cases c with
  | insert text =>
    rw [perform_insert] at hc
    rw [act_insert, getD_of_not_edited hc]
    exact hbefore
  | deleteBackward =>
    rw [perform_deleteBackward] at hc
    rw [act_deleteBackward, getD_of_not_edited hc]
    exact hbefore
  | moveCursor offset => exact not_overhangs_select h hbefore offset offset
  | select anchor head => exact not_overhangs_select h hbefore anchor head
  | setHeight height => exact not_overhangs_setHeight v height
  | ensureCursorVisible =>
    obtain ⟨topLine, htop⟩ := v.ensureCursorVisible_eq
    refine (follows_ensureCursorVisible h).not_overhangs ?_ hbefore
    rw [htop]
  | replaceAll text =>
    by_cases halive : v.alive = true
    · exact not_overhangs_replaceAll halive text
    · change ¬ (v.replaceAll text).Overhangs
      rw [replaceAll, if_neg halive]
      exact hbefore
  | setSelection s =>
    change ¬ (v.setSelection s).Overhangs
    unfold setSelection
    split
    · rw [applySelection_eq]
      exact hbefore
    · exact hbefore
  | scrollIntoView s o =>
    by_cases halive : v.alive = true
    · exact not_overhangs_scrollIntoView halive s o
    · change ¬ (v.scrollIntoView s o).Overhangs
      rw [scrollIntoView, if_neg halive]
      exact hbefore
  | focus =>
    change ¬ v.focus.Overhangs
    unfold focus
    split
    · exact hbefore
    · exact hbefore
  | setEditable editable => exact hbefore
  | destroy => exact hbefore
  | drain => exact hbefore

/-- **The viewport comes to hang over the end only by an edit that takes lines away.** -/
theorem edited_of_overhangs_act (h : 0 < v.height) (hbefore : ¬ v.Overhangs)
    (hafter : (v.act c).Overhangs) :
    (v.perform c).2 = .edited true ∧ (v.act c).document.lineCount < v.document.lineCount := by
  have hc : (v.perform c).2 = .edited true := by
    by_contra hne
    exact not_overhangs_act h hne hbefore hafter
  refine ⟨hc, ?_⟩
  by_contra hlines
  exact (follows_of_edited h hc).not_overhangs (Nat.le_of_not_lt hlines) hbefore hafter

/-! ### Runs -/

/-- The last of some commands is done to what the others made of the view. -/
theorem run_concat (v : View) (commands : List Command) (c : Command) :
    v.run (commands ++ [c]) = (v.run commands).act c := by
  rw [run, List.foldl_append]
  rfl

/-- **In a run the viewport never hangs over the end just if each edit that is made leaves it, or
the cursor, where the lines below are enough for its rows.**  Whatever else is done to a view that
was made from a text, no row of the viewport is empty while lines are hidden above it. -/
theorem never_overhangs_iff (text : List Char) (height : Nat) (commands : List Command) :
    (∀ before, before <+: commands →
      let v := (new text height).run before
      v.topLine ≤ v.document.lineCount - v.height) ↔
    ∀ before c, before ++ [c] <+: commands →
      let v := (new text height).run before
      let v' := (new text height).run (before ++ [c])
      (v.perform c).2 = .edited true →
        v.topLine ≤ v'.document.lineCount - v'.height ∨
          v'.cursorLine ≤ v'.document.lineCount - v'.height := by
  have hheight : ∀ before, 0 < ((new text height).run before).height :=
    fun before => (sound_run (sound_new text height) before).height_pos
  constructor
  · intro hnever before c hprefix v v' hc
    have hfollows : v.Follows v' := by
      unfold v'
      rw [run_concat]
      exact follows_of_edited (hheight before) hc
    have hafter : ¬ v'.Overhangs := Nat.not_lt_of_le (hnever _ hprefix)
    rw [hfollows.overhangs_iff] at hafter
    unfold maxTopLine at hafter
    omega
  · intro hedits before
    -- The last command of a part of the run is the one that may have moved the viewport.
    induction before using List.reverseRecOn with
    | nil => exact fun _ => Nat.le_of_not_lt (not_overhangs_new text height)
    | append_singleton before c ih =>
      intro hprefix
      have hbefore : ¬ ((new text height).run before).Overhangs :=
        Nat.not_lt_of_le (ih ((List.prefix_append before [c]).trans hprefix))
      refine Nat.le_of_not_lt (?_ : ¬ ((new text height).run (before ++ [c])).Overhangs)
      by_cases hc : (((new text height).run before).perform c).2 = .edited true
      · have hfollows := follows_of_edited (hheight before) hc
        have hroom := hedits before c hprefix hc
        rw [run_concat] at hroom ⊢
        rw [hfollows.overhangs_iff]
        unfold maxTopLine
        omega
      · rw [run_concat]
        exact not_overhangs_act (hheight before) hc hbefore

/-- The last of three lines is deleted under a viewport of two rows, which stays on the last line
that is left and shows an empty row below it, with the first line hidden above. -/
theorem overhangs_of_deleted :
    let v := (new "a\nb\nc".toList 2).run [.moveCursor 5, .deleteBackward, .deleteBackward]
    v.document.lines = ["a".toList, "b".toList] ∧ v.height = 2 ∧ v.topLine = 1 ∧
      ¬ v.topLine ≤ v.document.lineCount - v.height := by
  decide

end View
end TuneEditor
