/-
# What is true of every view

A view that was made from a text is sound: its selection lies in the text, its
viewport has a row and begins at a line that there is, it counts as modified
when its text was ever changed, and once it is torn down it has neither the focus
nor an event to hand over (`Sound`).

| what is done | why the view stays sound |
|---|---|
| edit, new text | the caret goes behind what was typed, or the selection is cut off |
| selection | it is cut off at the end of the text |
| scrolling, new height | the viewport begins at the cursor, or no lower than the last line |
| end of the view | it gives up the focus and its events |

Each of these is a lemma about one function, `sound_act` puts them together, and
`sound_run` follows by induction on the commands.
-/

import TuneEditor.Proofs.View.Reports
import TuneEditor.Proofs.View.Viewport

namespace TuneEditor
namespace View

/-- What is true of a view, whatever was done to it. -/
structure Sound (v : View) : Prop where
  anchor_le : v.anchor ≤ v.document.size
  head_le : v.head ≤ v.document.size
  height_pos : 0 < v.height
  topLine_lt : v.topLine < v.document.lineCount
  modified_iff : v.modified = true ↔ 0 < v.revision
  alive_of_focused : v.focused = true → v.alive = true
  outbox_eq_nil : v.alive = false → v.outbox = []

namespace Sound

variable {v : View}

/-- A view that is gone does not have the focus. -/
theorem focused_eq_false (h : v.Sound) (hdead : v.alive = false) : v.focused = false := by
  rw [← Bool.not_eq_true]
  intro hfocused
  exact absurd hdead (ne_false_of_eq_true (h.alive_of_focused hfocused))

/-- What is selected is in order and in the text. -/
theorem bounds_selection (h : v.Sound) :
    v.selection.start ≤ v.selection.stop ∧ v.selection.stop ≤ v.document.size := by
  have hanchor := h.anchor_le
  have hhead := h.head_le
  unfold selection Selection.between
  constructor
  · dsimp only
    omega
  · dsimp only
    omega

end Sound

variable {v : View}

/-- A fresh view stands at the start of its text, even if that is empty, and has a row, even if no
height was asked for. -/
theorem sound_new (text : List Char) (height : Nat) : (new text height).Sound where
  anchor_le := Nat.zero_le _
  head_le := Nat.zero_le _
  height_pos := Nat.lt_of_lt_of_le Nat.one_pos (Nat.le_max_right height 1)
  topLine_lt := Document.lineCount_pos _
  modified_iff := by simp [new]
  alive_of_focused _ := rfl
  outbox_eq_nil h := by cases h

/-! ### The viewport -/

/-- Following the cursor, the viewport begins at a line that there is. -/
theorem sound_ensureCursorVisible (h : v.Sound) : v.ensureCursorVisible.Sound := by
  obtain ⟨topLine, hlt, heq⟩ := v.exists_ensureCursorVisible h.height_pos
  rw [heq]
  exact { h with topLine_lt := hlt }

/-- A viewport of another height has a row at least, and begins no lower than the lowest
position. -/
theorem sound_setHeight (h : v.Sound) (height : Nat) : (v.setHeight height).Sound := by
  have hpos : 0 < max height 1 := Nat.lt_of_lt_of_le Nat.one_pos (Nat.le_max_right height 1)
  have hmax : View.maxTopLine { v with height := max height 1 } < v.document.lineCount :=
    maxTopLine_lt hpos
  have hlt : min v.topLine (View.maxTopLine { v with height := max height 1 }) <
      v.document.lineCount :=
    Nat.lt_of_le_of_lt (Nat.min_le_right _ _) hmax
  exact { h with height_pos := hpos, topLine_lt := hlt }

/-- Scrolling ends no lower than the lowest position, and that is above the end of the text. -/
theorem sound_scrollIntoView (h : v.Sound) (s : Selection) (o : Scroll) :
    (v.scrollIntoView s o).Sound := by
  unfold scrollIntoView
  split
  · exact { h with
      topLine_lt := Nat.lt_of_le_of_lt (Nat.min_le_right _ _) (maxTopLine_lt h.height_pos) }
  · exact h

/-! ### The selection -/

/-- A selection whose ends are in the text may be made in a view that is alive, where events may be
queued. -/
theorem sound_applySelection (h : v.Sound) (halive : v.alive = true) {anchor head : Nat}
    (hanchor : anchor ≤ v.document.size) (hhead : head ≤ v.document.size) :
    (v.applySelection anchor head).Sound := by
  rw [applySelection_eq]
  exact { h with
    anchor_le := hanchor
    head_le := hhead
    outbox_eq_nil := fun hdead => absurd hdead (ne_false_of_eq_true halive) }

/-- The ends that a user selects are cut off at the end of the text. -/
theorem sound_select (h : v.Sound) (anchor head : Nat) : (v.select anchor head).Sound := by
  unfold select
  split
  · next halive =>
    exact sound_ensureCursorVisible
      (sound_applySelection h halive (Nat.min_le_right _ _) (Nat.min_le_right _ _))
  · exact h

/-- So are those that a host selects. -/
theorem sound_setSelection (h : v.Sound) (s : Selection) : (v.setSelection s).Sound := by
  unfold setSelection
  split
  · next halive => exact sound_applySelection h halive (Nat.min_le_right _ _) (Nat.min_le_right _ _)
  · exact h

/-! ### The text -/

/-- A new text is in place, with the caret in it, once the viewport has followed the cursor. -/
theorem sound_retype (h : v.Sound) (halive : v.alive = true) {d : Document} {caret : Nat}
    (hcaret : caret ≤ d.size) :
    ((v.changeDocument d).applySelection caret caret).ensureCursorVisible.Sound := by
  have hheight : 0 < ((v.changeDocument d).applySelection caret caret).height := by
    rw [applySelection_eq]
    exact h.height_pos
  obtain ⟨topLine, hlt, heq⟩ := exists_ensureCursorVisible _ hheight
  rw [heq]
  rw [applySelection_eq] at hlt ⊢
  exact {
    anchor_le := hcaret
    head_le := hcaret
    height_pos := h.height_pos
    topLine_lt := hlt
    modified_iff := iff_of_true rfl (Nat.succ_pos _)
    alive_of_focused := h.alive_of_focused
    outbox_eq_nil := fun hdead => absurd hdead (ne_false_of_eq_true halive) }

/-- Behind what an edit puts in there is still the text for a caret to stand in. -/
theorem sound_edit? (h : v.Sound) {v' : View} {s : Selection} {text : List Char}
    (hedit : v.edit? s text = some v') : v'.Sound := by
  unfold edit? at hedit
  split at hedit
  · next hwilling =>
    obtain ⟨halive, -⟩ := Bool.and_eq_true_iff.1 hwilling
    obtain ⟨d, hd, rfl⟩ := Option.map_eq_some_iff.1 hedit
    exact sound_retype h halive (Document.le_size_of_replace? hd)
  · cases hedit

/-- Backspace is such an edit. -/
theorem sound_deleteBackward? (h : v.Sound) {v' : View} (hdelete : v.deleteBackward? = some v') :
    v'.Sound := by
  obtain ⟨part, hedit⟩ := edit?_of_deleteBackward? hdelete
  exact sound_edit? h hedit

/-- With another text in place of the whole one, selection and viewport are cut off at its end. -/
theorem sound_replaceAll (h : v.Sound) (text : List Char) : (v.replaceAll text).Sound := by
  unfold replaceAll
  split
  · next halive =>
    have hmax : (v.changeDocument (.ofChars text)).maxTopLine <
        (Document.ofChars text).lineCount :=
      maxTopLine_lt h.height_pos
    exact {
      anchor_le := Nat.min_le_right _ _
      head_le := Nat.min_le_right _ _
      height_pos := h.height_pos
      topLine_lt := Nat.lt_of_le_of_lt (Nat.min_le_right _ _) hmax
      modified_iff := iff_of_true rfl (Nat.succ_pos _)
      alive_of_focused := h.alive_of_focused
      outbox_eq_nil := fun hdead => absurd hdead (ne_false_of_eq_true halive) }
  · exact h

/-! ### The life of a view -/

/-- Only a view that is alive gets the focus. -/
theorem sound_focus (h : v.Sound) : v.focus.Sound := by
  unfold focus
  split
  · next halive => exact { h with alive_of_focused := fun _ => halive }
  · exact h

/-- At its end a view gives up the focus and its events. -/
theorem sound_destroy (h : v.Sound) : v.destroy.Sound :=
  { h with
    alive_of_focused := fun hfocused => by cases hfocused
    outbox_eq_nil := fun _ => rfl }

/-- A view whose events were taken has none to hand over, alive or not. -/
theorem sound_drain (h : v.Sound) : v.drain.2.Sound :=
  { h with outbox_eq_nil := fun _ => rfl }

/-! ### Commands -/

/-- Typing leaves the edited view, or the view as it was if the edit is refused, and says which. -/
theorem perform_insert (v : View) (text : List Char) :
    v.perform (.insert text) =
      ((v.insert? text).getD v, .edited (v.insert? text).isSome) := by
  cases h : v.insert? text with
  | none => simp only [perform, h]; rfl
  | some v' => simp only [perform, h]; rfl

/-- So does backspace. -/
theorem perform_deleteBackward (v : View) :
    v.perform .deleteBackward = (v.deleteBackward?.getD v, .edited v.deleteBackward?.isSome) := by
  cases h : v.deleteBackward? with
  | none => simp only [perform, h]; rfl
  | some v' => simp only [perform, h]; rfl

/-- What typing makes of a view, without the answer. -/
theorem act_insert (v : View) (text : List Char) :
    v.act (.insert text) = (v.insert? text).getD v :=
  congrArg Prod.fst (v.perform_insert text)

/-- What backspace makes of it. -/
theorem act_deleteBackward (v : View) :
    v.act .deleteBackward = v.deleteBackward?.getD v :=
  congrArg Prod.fst v.perform_deleteBackward

/-- An edit that may be refused leaves a sound view, if it is sound when it is made. -/
theorem sound_getD (h : v.Sound) {edited : Option View} (hedited : ∀ v' ∈ edited, v'.Sound) :
    (edited.getD v).Sound := by
  cases edited with
  | none => exact h
  | some v' => exact hedited v' rfl

/-- **Whatever is done to a sound view, it stays sound.** -/
theorem sound_act (h : v.Sound) (c : Command) : (v.act c).Sound := by
  cases c with
  | insert text =>
    rw [act_insert]
    exact sound_getD h fun _ hedit => sound_edit? h hedit
  | deleteBackward =>
    rw [act_deleteBackward]
    exact sound_getD h fun _ hdelete => sound_deleteBackward? h hdelete
  | moveCursor offset => exact sound_select h offset offset
  | select anchor head => exact sound_select h anchor head
  | setHeight height => exact sound_setHeight h height
  | ensureCursorVisible => exact sound_ensureCursorVisible h
  | replaceAll text => exact sound_replaceAll h text
  | setSelection s => exact sound_setSelection h s
  | scrollIntoView s o => exact sound_scrollIntoView h s o
  | focus => exact sound_focus h
  | setEditable editable => exact { h with }
  | destroy => exact sound_destroy h
  | drain => exact sound_drain h

/-- **A view that was made from a text is sound after any commands.** -/
theorem sound_run (h : v.Sound) (commands : List Command) : (v.run commands).Sound := by
  induction commands generalizing v with
  | nil => exact h
  | cons c commands ih => exact ih (sound_act h c)

/-- **A view stays within its text.**  After any commands, with whatever arguments, the length that
the document gives is that of the text, the selection lies in it and is in order, the viewport has a
row and begins at a line of the text, the view counts as modified just if its text was ever changed,
and it has the focus only if it is alive. -/
theorem run_within_text (text : List Char) (height : Nat) (commands : List Command) :
    let v := (new text height).run commands
    v.document.size = v.text.length ∧
      v.anchor ≤ v.document.size ∧ v.head ≤ v.document.size ∧
      1 ≤ v.height ∧ v.topLine < v.document.lineCount ∧
      (v.modified = true ↔ 0 < v.revision) ∧
      (v.focused = true → v.alive = true) ∧
      v.selection.start ≤ v.selection.stop ∧ v.selection.stop ≤ v.document.size := by
  intro v
  have hsound : v.Sound := sound_run (sound_new text height) commands
  obtain ⟨hordered, hwithin⟩ := hsound.bounds_selection
  exact ⟨v.document.size_eq, hsound.anchor_le, hsound.head_le, hsound.height_pos,
    hsound.topLine_lt, hsound.modified_iff, hsound.alive_of_focused, hordered, hwithin⟩

/-- The viewport begins at the last of three lines when all of them are deleted, and goes along to
the line that is left. -/
example :
    let v := (new ['a', '\n', 'b', '\n', 'c'] 1).run [.moveCursor 9]
    v.topLine = 2 ∧ (v.run [.select 7 0, .deleteBackward]).topLine = 0 := by
  decide

end View
end TuneEditor
