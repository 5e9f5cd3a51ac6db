/-
# What typing and deleting do to a text

An edit that is made puts a text in place of a part of the document and a caret
behind it, and tells so: first of the new text, then of the caret if another part of
the text was selected before (`Edited`).

| what is done | the part | the text in its place |
|---|---|---|
| typing | the selection | what is typed |
| deleting backward, something selected | the selection | none |
| deleting backward at a caret | the character before it | none |

A view that is alive and takes edits makes every edit of a part that there is
(`exists_edit?_eq`), and that is so of all parts that typing and deleting ask for.
So what was typed is gone again after as many deletions as it has characters
(`caretBetween_backspaces`).
-/

import Mathlib.Data.List.Induction
import TuneEditor.Proofs.View.Revision
import TuneEditor.Proofs.View.Soundness

namespace TuneEditor
namespace View

/-- What becomes of a view when a text is put in place of a part of its document. -/
structure Edited (v : View) (part : Selection) (text : List Char) (v' : View) : Prop where
  text_eq : v'.text = v.text.take part.start ++ text ++ v.text.drop part.stop
  anchor_eq : v'.anchor = part.start + text.length
  head_eq : v'.head = part.start + text.length
  selection_eq : v'.selection = .caret (part.start + text.length)
  revision_eq : v'.revision = v.revision + 1
  modified_eq : v'.modified = true
  /-- The new text is told, and then the caret if it is not what was selected before. -/
  outbox_eq : v'.outbox = v.outbox ++ .content v'.text ::
    if v'.selection = v.selection then [] else [.selection v'.selection]
  alive_eq : v'.alive = v.alive
  editable_eq : v'.editable = v.editable
  focused_eq : v'.focused = v.focused
  height_eq : v'.height = v.height

variable {v : View}

/-- **A view that is alive and takes edits makes every edit of a part that there is.** -/
theorem exists_edit?_eq (halive : v.alive = true) (heditable : v.editable = true)
    {part : Selection} (hordered : part.start ≤ part.stop) (hwithin : part.stop ≤ v.document.size)
    (text : List Char) : ∃ v', v.edit? part text = some v' ∧ v.Edited part text v' := by
  let d := Document.ofChars (v.text.take part.start ++ text ++ v.text.drop part.stop)
  have hd : v.document.replace? part.start part.stop text = some d :=
    Document.replace?_eq_some_iff.2 ⟨hordered, hwithin, rfl⟩
  obtain ⟨topLine, htop⟩ := ((v.changeDocument d).applySelection (part.start + text.length)
    (part.start + text.length)).ensureCursorVisible_eq
  have hedit : v.edit? part text = some (((v.changeDocument d).applySelection
      (part.start + text.length) (part.start + text.length)).ensureCursorVisible) := by
    unfold edit?
    rw [halive, heditable, hd]
    rfl
  have hcaret : Selection.between (part.start + text.length) (part.start + text.length) =
      .caret (part.start + text.length) :=
    Selection.between_of_le (Nat.le_refl _)
  rw [htop, applySelection_eq] at hedit
  exact ⟨_, hedit, {
    text_eq := rfl
    anchor_eq := rfl
    head_eq := rfl
    selection_eq := hcaret
    revision_eq := rfl
    modified_eq := rfl
    outbox_eq := List.append_assoc ..
    alive_eq := rfl
    editable_eq := rfl
    focused_eq := rfl
    height_eq := rfl }⟩

/-- A view that is gone or locked takes no edit. -/
theorem edit?_of_refused (h : (v.alive && v.editable) = false) (part : Selection)
    (text : List Char) : v.edit? part text = none := by
  unfold edit?
  rw [h]
  rfl

/-! ### Typing and deleting -/

/-- The part that is deleted backward: what is selected, or the character before a caret. -/
def partBefore (v : View) : Selection :=
  if v.selection.isEmpty then ⟨v.selection.start - 1, v.selection.start⟩ else v.selection

/-- Behind a character a caret has that character before it. -/
theorem partBefore_of_caret {n : Nat} (h : v.selection = ⟨n + 1, n + 1⟩) :
    v.partBefore = ⟨n, n + 1⟩ := by
  have hempty : (Selection.mk (n + 1) (n + 1)).isEmpty = true := beq_self_eq_true _
  unfold partBefore
  rw [h, if_pos hempty]
  rfl

/-- What is selected is what backspace takes out. -/
theorem partBefore_of_lt (h : v.selection.start < v.selection.stop) :
    v.partBefore = v.selection := by
  refine if_neg fun hempty => ?_
  exact Nat.ne_of_lt h (eq_of_beq hempty)

/-- Backspace is refused at the very start of the text, and otherwise it is an edit that puts
nothing in the place of a part. -/
theorem deleteBackward?_eq (v : View) :
    v.deleteBackward? = if v.selection = ⟨0, 0⟩ then none else v.edit? v.partBefore [] := by
  unfold deleteBackward? partBefore
  dsimp only
  by_cases hempty : v.selection.isEmpty = true
  · have hstop : v.selection.start = v.selection.stop := eq_of_beq hempty
    have hzero : v.selection = ⟨0, 0⟩ ↔ v.selection.start = 0 := by
      rw [Selection.mk.injEq]
      omega
    simp only [if_pos hempty, hzero]
  · have hzero : v.selection ≠ ⟨0, 0⟩ := by
      intro h
      rw [h] at hempty
      exact hempty rfl
    rw [if_neg hempty, if_neg hempty, if_neg hzero]

/-- What is deleted backward is a part of the document. -/
theorem Sound.bounds_partBefore (h : v.Sound) :
    v.partBefore.start ≤ v.partBefore.stop ∧ v.partBefore.stop ≤ v.document.size := by
  obtain ⟨hordered, hwithin⟩ := h.bounds_selection
  unfold partBefore
  split
  · dsimp only
    omega
  · exact ⟨hordered, hwithin⟩

/-- Typing is always possible in a view that takes edits. -/
theorem exists_perform_insert (h : v.Sound) (halive : v.alive = true)
    (heditable : v.editable = true) (typed : List Char) :
    ∃ v', v.perform (.insert typed) = (v', .edited true) ∧ v.Edited v.selection typed v' := by
  obtain ⟨hordered, hwithin⟩ := h.bounds_selection
  obtain ⟨v', hedit, hedited⟩ := exists_edit?_eq halive heditable hordered hwithin typed
  refine ⟨v', ?_, hedited⟩
  rw [perform_insert, insert?, hedit]
  rfl

/-- At the very start of the text backspace changes nothing, and says so. -/
theorem perform_deleteBackward_of_zero (h : v.selection = ⟨0, 0⟩) :
    v.perform .deleteBackward = (v, .edited false) := by
  rw [perform_deleteBackward, deleteBackward?_eq, if_pos h]
  rfl

/-- Deleting backward is possible in a view that takes edits, unless the caret is at the start of the
text. -/
theorem exists_perform_deleteBackward (h : v.Sound) (halive : v.alive = true)
    (heditable : v.editable = true) (hsome : v.selection ≠ ⟨0, 0⟩) :
    ∃ v', v.perform .deleteBackward = (v', .edited true) ∧ v.Edited v.partBefore [] v' := by
  obtain ⟨hordered, hwithin⟩ := h.bounds_partBefore
  obtain ⟨v', hedit, hedited⟩ := exists_edit?_eq halive heditable hordered hwithin []
  refine ⟨v', ?_, hedited⟩
  rw [perform_deleteBackward, deleteBackward?_eq, if_neg hsome, hedit]
  rfl

/-- A view that is gone or locked answers every edit with a refusal and stays as it is. -/
theorem perform_of_refused (h : (v.alive && v.editable) = false) :
    (∀ typed, v.perform (.insert typed) = (v, .edited false)) ∧
      v.perform .deleteBackward = (v, .edited false) := by
  constructor
  · intro typed
    rw [perform_insert, insert?, edit?_of_refused h]
    rfl
  · rw [perform_deleteBackward, deleteBackward?_eq, edit?_of_refused h, ite_self]
    rfl

/-! ### Deleting what was typed -/

/-- A view that takes edits, with a caret between two parts of its text. -/
structure CaretBetween (v : View) (before after : List Char) : Prop where
  alive : v.alive = true
  editable : v.editable = true
  text_eq : v.text = before ++ after
  anchor_eq : v.anchor = before.length
  head_eq : v.head = before.length

/-- After an edit the caret stands between the text in front of the part with what was put in, and
the text behind the part. -/
theorem Edited.caretBetween {v' : View} {part : Selection} {text : List Char}
    (h : v.Edited part text v') (halive : v.alive = true) (heditable : v.editable = true)
    (hwithin : part.start ≤ v.document.size) :
    v'.CaretBetween (v.text.take part.start ++ text) (v.text.drop part.stop) := by
  have hlength : (v.text.take part.start ++ text).length = part.start + text.length := by
    rw [List.length_append, List.length_take, Nat.min_eq_left]
    exact v.document.size_eq ▸ hwithin
  exact {
    alive := h.alive_eq.trans halive
    editable := h.editable_eq.trans heditable
    text_eq := h.text_eq
    anchor_eq := h.anchor_eq.trans hlength.symm
    head_eq := h.head_eq.trans hlength.symm }

/-- The character in front of a caret is deleted. -/
theorem caretBetween_deleteBackward {before after : List Char} {c : Char}
    (h : v.CaretBetween (before ++ [c]) after) :
    (v.act .deleteBackward).CaretBetween before after := by
  have hselection : v.selection = ⟨before.length + 1, before.length + 1⟩ := by
    unfold selection
    rw [h.anchor_eq, h.head_eq, List.length_append, List.length_singleton]
    exact Selection.between_of_le (Nat.le_refl _)
  have hsome : v.selection ≠ ⟨0, 0⟩ := by
    rw [hselection]
    exact fun hzero => Nat.succ_ne_zero _ (congrArg Selection.start hzero)
  have hwithin : before.length + 1 ≤ v.document.size := by
    have htext : v.document.chars = before ++ [c] ++ after := h.text_eq
    rw [v.document.size_eq, htext]
    simp
  obtain ⟨v', hedit, hedited⟩ : ∃ v', v.edit? ⟨before.length, before.length + 1⟩ [] = some v' ∧
      v.Edited ⟨before.length, before.length + 1⟩ [] v' :=
    exists_edit?_eq h.alive h.editable (Nat.le_succ _) hwithin []
  have hact : v.act .deleteBackward = v' := by
    rw [act_deleteBackward, deleteBackward?_eq, if_neg hsome, partBefore_of_caret hselection, hedit]
    rfl
  have hbetween := hedited.caretBetween h.alive h.editable (Nat.le_of_succ_le hwithin)
  rw [h.text_eq] at hbetween
  rw [hact]
  simpa using hbetween

/-- **What was typed is gone again** after as many deletions as it has characters. -/
theorem caretBetween_backspaces {before typed after : List Char}
    (h : v.CaretBetween (before ++ typed) after) :
    (v.run (List.replicate typed.length .deleteBackward)).CaretBetween before after := by
  induction typed using List.reverseRecOn generalizing v with
  | nil =>
    rw [List.append_nil] at h
    exact h
  | append_singleton typed c ih =>
    rw [← List.append_assoc] at h
    rw [List.length_append, List.length_singleton, List.replicate_succ]
    exact ih (caretBetween_deleteBackward h)

/-- Typing and deleting it all again leaves a caret where the selection was. -/
theorem caretBetween_run (h : v.Sound) (halive : v.alive = true) (heditable : v.editable = true)
    (typed : List Char) :
    (v.run (.insert typed :: List.replicate typed.length .deleteBackward)).CaretBetween
      (v.text.take v.selection.start) (v.text.drop v.selection.stop) := by
  obtain ⟨hordered, hwithin⟩ := h.bounds_selection
  obtain ⟨v', hperform, hedited⟩ := exists_perform_insert h halive heditable typed
  have hact : v.act (.insert typed) = v' := congrArg Prod.fst hperform
  have hbetween := hedited.caretBetween halive heditable (Nat.le_trans hordered hwithin)
  rw [← hact] at hbetween
  exact caretBetween_backspaces hbetween

/-- **Edits are exact, and deleting backward undoes typing.**  A view that was made from a text and
is torn down or takes no edits refuses them and stays as it is, whatever was done to it before.
Otherwise what is typed stands in place of the selection, always; and the selection, or the character
before a caret, is deleted, unless the caret is at the start of the text.  What was typed is gone
again after as many deletions as it has characters, and the caret is where the selection began. -/
theorem edits_exact (text : List Char) (height : Nat) (commands : List Command) :
    let v := (new text height).run commands
    ((v.alive && v.editable) = false →
      (∀ typed, v.perform (.insert typed) = (v, .edited false)) ∧
        v.perform .deleteBackward = (v, .edited false)) ∧
    ((v.alive && v.editable) = true →
      (∀ typed, ∃ v', v.perform (.insert typed) = (v', .edited true) ∧
        v.Edited v.selection typed v') ∧
      (v.perform .deleteBackward = (v, .edited false) ↔
        v.selection.start = 0 ∧ v.selection.stop = 0) ∧
      (∀ f, v.selection = ⟨f + 1, f + 1⟩ →
        ∃ v', v.perform .deleteBackward = (v', .edited true) ∧ v.Edited ⟨f, f + 1⟩ [] v') ∧
      (v.selection.start < v.selection.stop →
        ∃ v', v.perform .deleteBackward = (v', .edited true) ∧ v.Edited v.selection [] v') ∧
      ∀ typed,
        let v' := v.run (.insert typed :: List.replicate typed.length .deleteBackward)
        v'.text = v.text.take v.selection.start ++ v.text.drop v.selection.stop ∧
          v'.anchor = v.selection.start ∧ v'.head = v.selection.start) := by
  intro v
  have hsound : v.Sound := sound_run (sound_new text height) commands
  refine ⟨perform_of_refused, fun hwilling => ?_⟩
  obtain ⟨halive, heditable⟩ := Bool.and_eq_true_iff.1 hwilling
  have hdelete : v.selection ≠ ⟨0, 0⟩ →
      ∃ v', v.perform .deleteBackward = (v', .edited true) ∧ v.Edited v.partBefore [] v' :=
    exists_perform_deleteBackward hsound halive heditable
  refine ⟨exists_perform_insert hsound halive heditable, ?_, fun f hcaret => ?_, fun hlt => ?_,
    fun typed => ?_⟩
  · rw [← Selection.mk.injEq]
    constructor
    · intro hrefused
      by_contra hsome
      obtain ⟨v', hperform, -⟩ := hdelete hsome
      rw [hperform] at hrefused
      cases congrArg Prod.snd hrefused
    · exact perform_deleteBackward_of_zero
  · rw [← partBefore_of_caret hcaret]
    refine hdelete ?_
    rw [hcaret]
    exact fun hzero => Nat.succ_ne_zero f (congrArg Selection.start hzero)
  · rw [← partBefore_of_lt hlt]
    refine hdelete fun hzero => ?_
    rw [hzero] at hlt
    exact Nat.lt_irrefl 0 hlt
  · obtain ⟨hordered, hwithin⟩ := hsound.bounds_selection
    have hbetween := caretBetween_run hsound halive heditable typed
    have hlength : (v.text.take v.selection.start).length = v.selection.start := by
      rw [List.length_take, Nat.min_eq_left]
      exact v.document.size_eq ▸ Nat.le_trans hordered hwithin
    exact ⟨hbetween.text_eq, hbetween.anchor_eq.trans hlength, hbetween.head_eq.trans hlength⟩

end View
end TuneEditor
