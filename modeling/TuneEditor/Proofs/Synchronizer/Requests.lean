/-
# A request for a selection is granted whole or not at all

A host may ask for any two numbers.  What comes of it depends on the view and on
nothing else:

| the view | the request | what comes of it |
|---|---|---|
| is gone | any | accepted, and nothing is changed |
| is alive | fits its text | accepted, and the selection is made |
| is alive | does not fit | refused, and nothing is changed but the log |

A selection that is made is the one asked for, with its line in view.  The host has
then been told what happened before the request and nothing of what came of it; a
focus is to follow; and the view is otherwise as it was (`setSelection_of_fits`).

`setSelection_all_or_nothing` says so of every state that a session can come to.
-/

import TuneEditor.Proofs.Synchronizer.Sessions

namespace TuneEditor
namespace Synchronizer

section

variable {ω : Type} [Widget ω] {s : Synchronizer ω}

/-- A widget that is gone is asked for nothing. -/
theorem setSelection_of_gone (h : Widget.isAlive s.widget = false) (now : Nat)
    (r : SelectionRequest) : s.setSelection now r = (s, .ok ()) := by
  simp [setSelection, h]

/-- A request that does not fit leaves a record in the log. -/
theorem setSelection_of_not_fits (halive : Widget.isAlive s.widget = true) {r : SelectionRequest}
    (h : ¬ r.Fits (Widget.length s.widget)) (now : Nat) :
    s.setSelection now r =
      (s.note (.rejected ⟨r, Widget.length s.widget⟩),
        .error ⟨r, Widget.length s.widget⟩) := by
  simp [setSelection, halive, Selection.checked_of_not_fits h]

/-- A request that fits the text of a widget that is alive is granted. -/
theorem grant?_of_fits {w : ω} (halive : Widget.isAlive w = true) {r : SelectionRequest}
    (h : r.Fits (Widget.length w)) : grant? w r = some ⟨r.start.toNat, r.stop.toNat⟩ := by
  simp [grant?, halive, Selection.checked_of_fits h, Except.toOption]

end

end Synchronizer

namespace View

/-- A selection in the text is made as it is given. -/
theorem exists_setSelection_eq {v : View} (halive : v.alive = true) {range : Selection}
    (h₁ : range.start ≤ range.stop) (h₂ : range.stop ≤ v.document.size) :
    ∃ outbox, v.setSelection range =
      { v with anchor := range.start, head := range.stop, outbox } := by
  have hclamped : range.clamped v.document.size = range :=
    Selection.clamped_of_le (Nat.le_trans h₁ h₂) h₂
  unfold setSelection
  rw [if_pos halive]
  dsimp only
  rw [hclamped, applySelection_eq]
  exact ⟨_, rfl⟩

/-- What becomes of a view that is told to select a part of its text and to bring it into view, and
whose events are then taken. -/
theorem exists_handOver_eq {v : View} (halive : v.alive = true) (hheight : 0 < v.height)
    {range : Selection} (h₁ : range.start ≤ range.stop) (h₂ : range.stop ≤ v.document.size)
    (o : Scroll) :
    ∃ topLine,
      (Synchronizer.handOver v range o).2 =
          { v with anchor := range.start, head := range.stop, topLine, outbox := [] } ∧
        (Synchronizer.handOver v range o).2.isLineVisible
          (v.document.position range.start).line = true := by
  obtain ⟨outbox, hset⟩ := exists_setSelection_eq halive h₁ h₂
  let w : View := { v with anchor := range.start, head := range.stop, outbox }
  have hdrained : (Synchronizer.handOver v range o).2 = (w.scrollIntoView range o).drain.2 :=
    congrArg (fun u : View => (u.scrollIntoView range o).drain.2) hset
  have hvisible : (w.scrollIntoView range o).isLineVisible
      (v.document.position range.start).line = true :=
    isLineVisible_scrollIntoView (v := w) halive hheight range o
  have hscroll : w.scrollIntoView range o =
      { w with topLine := (w.scrollIntoView range o).topLine } := by
    unfold scrollIntoView
    rw [if_pos halive]
  rw [hdrained]
  refine ⟨(w.scrollIntoView range o).topLine, ?_, hvisible⟩
  rw [hscroll]
  rfl

end View

namespace Synchronizer

variable {s : Synchronizer View}

/-- **What a request that fits does.**  The selection is made and its line is in view, the events so
far are told and none of those that come of it, and a focus is to follow. -/
theorem setSelection_of_fits (hidle : s.phase = .idle) (hsound : s.widget.Sound)
    (halive : s.widget.alive = true) {r : SelectionRequest} (h : r.Fits s.widget.text.length)
    (now : Nat) :
    ∃ t, s.setSelection now r = (t, .ok ()) ∧
      (∃ anchor head topLine log,
        t = { s with
          widget := { s.widget with anchor, head, topLine, outbox := [] }
          heard := s.heard ++ s.widget.outbox.map Event.notice
          log
          pendingFocus := some (now + s.options.focusDelay) }) ∧
      r = ⟨t.widget.selection.start, t.widget.selection.stop⟩ ∧
      t.widget.isLineVisible (t.widget.document.position t.widget.selection.start).line = true := by
  let range : Selection := ⟨r.start.toNat, r.stop.toNat⟩
  obtain ⟨hstart, hle, hstop⟩ := h
  have h₁ : range.start ≤ range.stop := by
    dsimp only [range]
    omega
  have h₂ : range.stop ≤ s.widget.document.size := by
    have hsize := s.widget.document.size_eq
    dsimp only [range]
    unfold View.text at hstop
    omega
  have hlength : Widget.length s.widget = s.widget.text.length := s.widget.document.size_eq
  have hgrant : grant? s.widget r = some range :=
    grant?_of_fits halive (hlength ▸ ⟨hstart, hle, hstop⟩)
  obtain ⟨htold, -, -⟩ :=
    View.handOver_of_empty (v := (Widget.drain s.widget).2) rfl halive h₁ h₂ s.options.scroll
  obtain ⟨topLine, hwidget, hvisible⟩ :=
    View.exists_handOver_eq (v := (Widget.drain s.widget).2) halive hsound.height_pos h₁ h₂
      s.options.scroll
  have hstate := setSelection_of_granted hidle hgrant now
  dsimp only at hstate
  rw [htold, List.map_nil, List.append_nil] at hstate
  have hselection : (s.setSelection now r).1.widget.selection = range := by
    rw [hstate]
    dsimp only
    rw [hwidget]
    exact Selection.between_of_le h₁
  refine ⟨(s.setSelection now r).1, ?_,
    ⟨range.start, range.stop, topLine, (s.setSelection now r).1.log, ?_⟩, ?_, ?_⟩
  · rw [setSelection_of_some hgrant]
  · rw [hstate, hwidget]
    rfl
  · rw [hselection]
    obtain ⟨start, stop⟩ := r
    dsimp only [range] at hstart hle ⊢
    rw [Int.toNat_of_nonneg hstart, Int.toNat_of_nonneg (Int.le_trans hstart hle)]
  · rw [hselection, hstate]
    dsimp only
    rw [hwidget] at hvisible ⊢
    exact hvisible

/-- **A request for a selection is granted whole or not at all.**  A view that is gone is left alone.
One that is alive grants the requests that fit its text and no others.  A refusal names the request
and the length of the text and changes nothing but the log.  A request that is granted selects just
what was asked for and brings its first line into view; it tells the host what was queued, leaves
nothing queued and makes a focus follow; and nothing else is changed by it. -/
theorem setSelection_all_or_nothing (text : List Char) (height : Nat) (o : SyncOptions)
    (turns : List (Turn View.Command)) (now : Nat) (r : SelectionRequest) :
    let s := (ofText text height o).run View.act turns
    let t := (s.setSelection now r).1
    let answer := (s.setSelection now r).2
    let length := s.widget.text.length
    (s.widget.alive = false → answer = .ok () ∧ t = s) ∧
      (s.widget.alive = true →
        (answer = .ok () ↔ 0 ≤ r.start ∧ r.start ≤ r.stop ∧ r.stop ≤ length) ∧
        (∀ e, answer = .error e → e = ⟨r, length⟩ ∧ t = s.note (.rejected e)) ∧
        (answer = .ok () →
          (∃ anchor head topLine log,
            t = { s with
              widget := { s.widget with anchor, head, topLine, outbox := [] }
              heard := s.heard ++ s.widget.outbox.map Event.notice
              log
              pendingFocus := some (now + s.options.focusDelay) }) ∧
          r = ⟨t.widget.selection.start, t.widget.selection.stop⟩ ∧
          t.widget.isLineVisible
            (t.widget.document.position t.widget.selection.start).line = true)) := by
  intro s t answer length
  have hidle : s.phase = .idle := phase_run rfl turns
  have hsound : s.widget.Sound := sound_session text height o turns
  have hlength : Widget.length s.widget = length := s.widget.document.size_eq
  refine ⟨fun hgone => ?_, fun halive => ?_⟩
  · have hsame : s.setSelection now r = (s, .ok ()) := setSelection_of_gone hgone now r
    exact ⟨congrArg Prod.snd hsame, congrArg Prod.fst hsame⟩
  · by_cases hfits : r.Fits length
    · obtain ⟨t', hset, hmade⟩ := setSelection_of_fits hidle hsound halive hfits now
      have ht : t = t' := congrArg Prod.fst hset
      have hanswer : answer = .ok () := congrArg Prod.snd hset
      rw [← ht] at hmade
      refine ⟨iff_of_true hanswer hfits, fun e he => ?_, fun _ => hmade⟩
      rw [hanswer] at he
      cases he
    · have hrefused : s.setSelection now r =
          (s.note (.rejected ⟨r, length⟩), .error ⟨r, length⟩) := by
        rw [← hlength] at hfits ⊢
        exact setSelection_of_not_fits halive hfits now
      have hanswer : answer = .error ⟨r, length⟩ := congrArg Prod.snd hrefused
      have hnot : answer ≠ .ok () := by
        rw [hanswer]
        exact fun h => by cases h
      refine ⟨iff_of_false hnot hfits, fun e he => ?_, fun hok => absurd hok hnot⟩
      obtain rfl : e = ⟨r, length⟩ := Except.error.inj (he.symm.trans hanswer)
      exact ⟨rfl, congrArg Prod.fst hrefused⟩

end Synchronizer
end TuneEditor
