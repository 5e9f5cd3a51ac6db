/-
# What can become of a view, and how its revision dates its text

Whatever is done to a view is one of ten changes of it (`Change`,
`change_act`).  Three of them touch the text or the selection of a view that is
alive, and only two the text: an edit and a new text in place of the whole one.

Both of these count the revision up, and nothing counts it down.  So what was
known of the text at some revision is true as long as the revision is the same,
whatever is done to the view in the meantime (`dates_act`).
-/

import TuneEditor.Proofs.View.Reports

namespace TuneEditor
namespace View

/-! ### What can become of a view -/

/-- What a command makes of a view. -/
inductive Change (v : View) : View → Prop
  /-- The view stays as it is. -/
  | refused : Change v v
  /-- A text stands in place of a part of the document, and the cursor behind it. -/
  | edit {s : Selection} {text : List Char} {d : Document} (halive : v.alive = true)
    (heditable : v.editable = true) (hd : v.document.replace? s.start s.stop text = some d) :
    Change v ((v.changeDocument d).applySelection (s.start + text.length)
      (s.start + text.length)).ensureCursorVisible
  /-- A part of the text is selected, by the user who sees it or by the host. -/
  | select {anchor head : Nat} (halive : v.alive = true) (hanchor : anchor ≤ v.document.size)
    (hhead : head ≤ v.document.size) :
    Change v (v.applySelection anchor head).ensureCursorVisible
  | setSelection {anchor head : Nat} (halive : v.alive = true)
    (hanchor : anchor ≤ v.document.size) (hhead : head ≤ v.document.size) :
    Change v (v.applySelection anchor head)
  | replaceAll (text : List Char) (halive : v.alive = true) : Change v (v.replaceAll text)
  /-- The viewport is somewhere else or has another height. -/
  | viewport (topLine height : Nat) : Change v { v with topLine, height }
  | focus (halive : v.alive = true) : Change v v.focus
  | setEditable (editable : Bool) : Change v (v.setEditable editable)
  | destroy : Change v v.destroy
  | drain : Change v v.drain.2

/-- Following the cursor changes the viewport and nothing else. -/
theorem ensureCursorVisible_eq (v : View) :
    ∃ topLine, v.ensureCursorVisible = { v with topLine } := by
  unfold ensureCursorVisible
  split
  · exact ⟨_, rfl⟩
  · split
    · exact ⟨_, rfl⟩
    · exact ⟨v.topLine, rfl⟩

/-- An edit that is made was allowed, and it is the edit of the list. -/
theorem change_edit? {v v' : View} {s : Selection} {text : List Char}
    (h : v.edit? s text = some v') : Change v v' := by
  unfold edit? at h
  split at h
  · next hwilling =>
    obtain ⟨halive, heditable⟩ := Bool.and_eq_true_iff.1 hwilling
    obtain ⟨d, hd, rfl⟩ := Option.map_eq_some_iff.1 h
    exact .edit halive heditable hd
  · cases h

/-- Backspace is such an edit. -/
theorem change_deleteBackward? {v v' : View} (h : v.deleteBackward? = some v') :
    Change v v' := by
  obtain ⟨part, hedit⟩ := edit?_of_deleteBackward? h
  exact change_edit? hedit

/-- Selecting cuts the offsets off at the end of the text, in a view that is alive. -/
theorem change_select (v : View) (anchor head : Nat) : Change v (v.select anchor head) := by
  unfold select
  split
  · next halive => exact .select halive (Nat.min_le_right _ _) (Nat.min_le_right _ _)
  · exact .refused

/-- **Whatever is done to a view is one of these changes.** -/
theorem change_act (v : View) (c : Command) : Change v (v.act c) := by
  unfold act
  cases c with
  | insert text =>
    cases hv : v.insert? text with
    | none =>
      simp only [perform, hv]
      exact .refused
    | some v' =>
      simp only [perform, hv]
      exact change_edit? hv
  | deleteBackward =>
    cases hv : v.deleteBackward? with
    | none =>
      simp only [perform, hv]
      exact .refused
    | some v' =>
      simp only [perform, hv]
      exact change_deleteBackward? hv
  | moveCursor offset => exact change_select v offset offset
  | select anchor head => exact change_select v anchor head
  | setHeight height => exact .viewport _ _
  | ensureCursorVisible =>
    obtain ⟨topLine, hv⟩ := v.ensureCursorVisible_eq
    simp only [perform, hv]
    exact .viewport topLine v.height
  | replaceAll text =>
    cases halive : v.alive with
    | true => exact .replaceAll text halive
    | false =>
      simp only [perform, View.replaceAll, halive]
      exact .refused
  | setSelection s =>
    cases halive : v.alive with
    | true =>
      simp only [perform, View.setSelection, halive]
      exact .setSelection halive (Nat.min_le_right _ _) (Nat.min_le_right _ _)
    | false =>
      simp only [perform, View.setSelection, halive]
      exact .refused
  | scrollIntoView s o =>
    cases halive : v.alive with
    | true =>
      simp only [perform, View.scrollIntoView, if_pos halive]
      exact .viewport _ v.height
    | false =>
      simp only [perform, View.scrollIntoView, halive]
      exact .refused
  | focus =>
    cases halive : v.alive with
    | true => exact .focus halive
    | false =>
      simp only [perform, View.focus, halive]
      exact .refused
  | setEditable editable => exact .setEditable editable
  | destroy => exact .destroy
  | drain => exact .drain

/-! ### The revision -/

/-- The revision of the second view is not before that of the first, and if it is the same then so
is the text. -/
def Dates (v v' : View) : Prop :=
  v.revision ≤ v'.revision ∧ (v'.revision = v.revision → v'.document = v.document)

namespace Dates

variable {v v' : View}

/-- Where neither text nor revision changes, the revision goes on to date the text. -/
theorem of_same (hdocument : v'.document = v.document) (hrevision : v'.revision = v.revision) :
    Dates v v' :=
  ⟨Nat.le_of_eq hrevision.symm, fun _ => hdocument⟩

/-- A revision that grows dates nothing that was known before. -/
theorem of_succ (h : v'.revision = v.revision + 1) : Dates v v' :=
  ⟨by omega, fun heq => by omega⟩

end Dates

/-- Each change either leaves the text or counts the revision up. -/
theorem dates_of_change {v v' : View} (h : Change v v') : Dates v v' := by
  cases h with
  | refused => exact .of_same rfl rfl
  | edit halive heditable hd =>
    obtain ⟨topLine, hv⟩ := ensureCursorVisible_eq _
    rw [hv, applySelection_eq]
    exact .of_succ rfl
  | select halive hanchor hhead =>
    obtain ⟨topLine, hv⟩ := ensureCursorVisible_eq _
    rw [hv, applySelection_eq]
    exact .of_same rfl rfl
  | setSelection halive hanchor hhead =>
    rw [applySelection_eq]
    exact .of_same rfl rfl
  | replaceAll text halive =>
    unfold replaceAll
    rw [if_pos halive]
    exact .of_succ rfl
  | viewport topLine height => exact .of_same rfl rfl
  | focus halive =>
    unfold focus
    rw [if_pos halive]
    exact .of_same rfl rfl
  | setEditable editable => exact .of_same rfl rfl
  | destroy => exact .of_same rfl rfl
  | drain => exact .of_same rfl rfl

/-- **Whatever is done to a view, its revision dates its text.** -/
theorem dates_act (v : View) (c : Command) : Dates v (v.act c) :=
  dates_of_change (change_act v c)

end View
end TuneEditor
