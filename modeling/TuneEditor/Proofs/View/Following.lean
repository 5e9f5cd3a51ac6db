/-
# How the viewport follows the cursor

A viewport that follows the cursor is moved as little as brings the line of the
cursor into view: of all places from which the line is seen with the rows there are,
it goes to the one that is nearest to where it was (`Follows`).  There is no second
place as near as that, and where the line was in view before, the nearest place is
the old one (`Follows.topLine_eq`).

| what is done | how the viewport comes to follow the cursor |
|---|---|
| following the cursor | the old place is clamped to those that show the line |
| selecting | it ends by following the cursor |
| typing, deleting | the same, if the edit is made |

The text may have become longer or shorter in between, and the viewport may hang over
its end.  Only the line of the cursor counts, and where the viewport was.
-/

import Mathlib.Data.Nat.Dist
import TuneEditor.Proofs.View.Revision
import TuneEditor.Proofs.View.Soundness

namespace TuneEditor
namespace View

/-- The viewport of the second view is that of the first, moved as little as brings the line of the
cursor into view. -/
structure Follows (v v' : View) : Prop where
  visible : v'.isLineVisible v'.cursorLine = true
  /-- Every other place from which the line is in view is farther away. -/
  nearest : ∀ topLine ≠ v'.topLine, isLineVisible { v' with topLine } v'.cursorLine = true →
    Nat.dist v'.topLine v.topLine < Nat.dist topLine v.topLine
  height_eq : v'.height = v.height

variable {v v' w : View}

namespace Follows

/-- A viewport in which the line of the cursor is to be seen already stays where it is. -/
theorem topLine_eq (h : v.Follows v') (hvisible : v.isLineVisible v'.cursorLine = true) :
    v'.topLine = v.topLine := by
  by_contra hne
  have hthere : isLineVisible { v' with topLine := v.topLine } v'.cursorLine = true := by
    rw [isLineVisible_iff] at hvisible ⊢
    rw [h.height_eq]
    exact hvisible
  have hlt := h.nearest v.topLine (Ne.symm hne) hthere
  rw [Nat.dist_self] at hlt
  exact Nat.not_lt_zero _ hlt

/-- It does not matter what else becomes of a view before its viewport follows the cursor. -/
theorem of_same (h : w.Follows v') (htopLine : w.topLine = v.topLine)
    (hheight : w.height = v.height) : v.Follows v' where
  visible := h.visible
  nearest := htopLine ▸ h.nearest
  height_eq := h.height_eq.trans hheight

end Follows

/-! ### One step -/

/-- The first and the last place that show the line of the cursor have it in the last row and in the
first, and the viewport goes to the place between them that is next to its own. -/
theorem ensureCursorVisible_eq_clamped (h : 0 < v.height) :
    v.ensureCursorVisible =
      { v with topLine := max (v.cursorLine + 1 - v.height) (min v.topLine v.cursorLine) } := by
  have htopLine : ∀ topLine, topLine = max (v.cursorLine + 1 - v.height)
      (min v.topLine v.cursorLine) → { v with topLine } =
        { v with topLine := max (v.cursorLine + 1 - v.height) (min v.topLine v.cursorLine) } :=
    fun topLine heq => congrArg (fun topLine => { v with topLine }) heq
  unfold ensureCursorVisible
  split
  · exact htopLine _ (by omega)
  · split
    · exact htopLine _ (by omega)
    · exact htopLine v.topLine (by omega)

/-- **To bring the cursor into view is to follow it.** -/
theorem follows_ensureCursorVisible (h : 0 < v.height) : v.Follows v.ensureCursorVisible := by
  rw [ensureCursorVisible_eq_clamped h]
  refine ⟨isLineVisible_iff.2 ⟨?_, ?_⟩, fun topLine hne hvisible => ?_, rfl⟩
  · change max _ _ ≤ v.cursorLine
    omega
  · change v.cursorLine < max _ _ + v.height
    omega
  · obtain ⟨hle, hlt⟩ := isLineVisible_iff.1 hvisible
    change topLine ≤ v.cursorLine at hle
    change v.cursorLine < topLine + v.height at hlt
    unfold Nat.dist
    dsimp only at hne ⊢
    omega

/-- Neither another selection nor following the cursor changes the text. -/
theorem document_followed (v : View) (anchor head : Nat) :
    (v.applySelection anchor head).ensureCursorVisible.document = v.document := by
  obtain ⟨topLine, htopLine⟩ := ensureCursorVisible_eq (v.applySelection anchor head)
  rw [htopLine, applySelection_eq]

/-- Another selection leaves the viewport where it is, so it is followed from there. -/
theorem follows_applySelection (h : 0 < v.height) (anchor head : Nat) :
    v.Follows (v.applySelection anchor head).ensureCursorVisible := by
  have heq := v.applySelection_eq anchor head
  have htopLine : (v.applySelection anchor head).topLine = v.topLine := by rw [heq]
  have hheight : (v.applySelection anchor head).height = v.height := by rw [heq]
  exact (follows_ensureCursorVisible (hheight ▸ h)).of_same htopLine hheight

/-! ### Selecting and editing -/

/-- Selecting follows the cursor. -/
theorem follows_select (h : 0 < v.height) (halive : v.alive = true) (anchor head : Nat) :
    v.Follows (v.select anchor head) := by
  unfold select
  rw [if_pos halive]
  exact follows_applySelection h _ _

/-- The cursor is on the line of the offset that was asked for, or on the last line. -/
theorem cursorLine_select (halive : v.alive = true) (anchor head : Nat) :
    (v.select anchor head).cursorLine = (v.document.position head).line := by
  obtain ⟨topLine, htopLine⟩ := ensureCursorVisible_eq
    (v.applySelection (min anchor v.document.size) (min head v.document.size))
  unfold select cursorLine
  rw [if_pos halive, htopLine, applySelection_eq]
  exact congrArg Position.line (v.document.position_min head)

/-- An edit that is made is followed, however many lines it adds or takes away. -/
theorem follows_edit? (h : 0 < v.height) {part : Selection} {text : List Char}
    (hedit : v.edit? part text = some v') : v.Follows v' := by
  unfold edit? at hedit
  split at hedit
  · obtain ⟨d, -, rfl⟩ := Option.map_eq_some_iff.1 hedit
    have hfollows := follows_applySelection (v := v.changeDocument d) h (part.start + text.length)
      (part.start + text.length)
    exact hfollows.of_same rfl rfl
  · cases hedit

/-- Backspace follows the cursor, as it is an edit. -/
theorem follows_deleteBackward? (h : 0 < v.height) (hdelete : v.deleteBackward? = some v') :
    v.Follows v' := by
  obtain ⟨part, hedit⟩ := edit?_of_deleteBackward? hdelete
  exact follows_edit? h hedit

/-- A view that says of an edit that it was made is the view after it. -/
theorem eq_some_of_edited {edited : Option View}
    (h : (edited.getD v, Reply.edited edited.isSome) = (v', .edited true)) : edited = some v' := by
  cases edited with
  | none => cases congrArg Prod.snd h
  | some w => exact congrArg some (congrArg Prod.fst h)

/-- **The cursor is followed with the least scrolling.**  In a view that was made from a text and
is alive, whatever was done to it, the line of the cursor is in view after selecting, with any
offsets, and after every edit that is made.  The viewport is then at the place nearest to where it
was, of all those from which that line is in view with as many rows; so it has not moved if the line
was in view there. -/
theorem cursor_followed (text : List Char) (height : Nat) (commands : List Command)
    (halive : ((new text height).run commands).alive = true) :
    let v := (new text height).run commands
    (∀ anchor head, v.Follows (v.select anchor head) ∧
      (v.select anchor head).cursorLine = (v.document.position head).line) ∧
    (∀ offset, v.Follows (v.moveCursor offset) ∧
      (v.moveCursor offset).cursorLine = (v.document.position offset).line) ∧
    (∀ typed v', v.perform (.insert typed) = (v', .edited true) → v.Follows v') ∧
    (∀ v', v.perform .deleteBackward = (v', .edited true) → v.Follows v') ∧
    ∀ v', v.Follows v' → v.isLineVisible v'.cursorLine = true → v'.topLine = v.topLine := by
  intro v
  have hheight : 0 < v.height := (sound_run (sound_new text height) commands).height_pos
  have hselect : ∀ anchor head, v.Follows (v.select anchor head) ∧
      (v.select anchor head).cursorLine = (v.document.position head).line :=
    fun anchor head =>
      ⟨follows_select hheight halive anchor head, cursorLine_select halive anchor head⟩
  refine ⟨hselect, fun offset => hselect offset offset, fun typed v' hperform => ?_,
    fun v' hperform => ?_, fun v' hfollows => hfollows.topLine_eq⟩
  · rw [perform_insert] at hperform
    exact follows_edit? hheight (eq_some_of_edited hperform)
  · rw [perform_deleteBackward] at hperform
    exact follows_deleteBackward? hheight (eq_some_of_edited hperform)

/-- Five lines with the viewport on the last two are deleted but for the first character, which the
host selected behind, so that the viewport comes up from below the end of the text. -/
theorem cursor_followed_of_deleted :
    let v := (new "a\nb\nc\nd\ne".toList 2).run [.moveCursor 9, .setSelection ⟨1, 9⟩]
    v.alive = true ∧ v.topLine = 3 ∧ ∃ v', v.perform .deleteBackward = (v', .edited true) ∧
      v'.document.lineCount = 1 ∧ v'.topLine = 0 ∧ v.Follows v' := by
  intro v
  have halive : v.alive = true := by decide
  obtain ⟨-, -, -, hdelete, -⟩ := cursor_followed "a\nb\nc\nd\ne".toList 2
    [.moveCursor 9, .setSelection ⟨1, 9⟩] halive
  have hperform : v.perform .deleteBackward = ((v.perform .deleteBackward).1, .edited true) := by
    decide
  exact ⟨halive, by decide, _, hperform, by decide, by decide, hdelete _ hperform⟩

end View
end TuneEditor
