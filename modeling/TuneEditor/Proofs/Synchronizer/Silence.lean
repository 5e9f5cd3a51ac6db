/-
# A view that is gone stays silent

Once a view is torn down, by its host or behind its back, it has no events and
no focus, and nothing brings them back.  It can still be scrolled and resized and
told whether it is to be edited, and nothing else becomes of it (`rests_act`).

The synchronizer asks whether its widget lives before each thing it does to it, and so
leaves a view that is gone as it is (`perform_of_gone`).  It goes on forgetting what is
due and remembering what is requested, but the host hears nothing of that.
-/

import TuneEditor.Proofs.Synchronizer.Requests
import TuneEditor.Proofs.View.Editing

namespace TuneEditor
namespace View

/-- The second view is the first but for the viewport and the leave to edit. -/
def Rests (v v' : View) : Prop :=
  ∃ topLine height editable, v' = { v with topLine, height, editable }

/-- Tearing down a view that is gone does nothing. -/
theorem destroy_of_gone {v : View} (hsound : v.Sound) (hgone : v.alive = false) :
    v.destroy = v := by
  have hset : ∀ (alive focused : Bool) (outbox : List Event), v.alive = alive →
      v.focused = focused → v.outbox = outbox → { v with alive, focused, outbox } = v := by
    rintro _ _ _ rfl rfl rfl
    rfl
  exact hset _ _ _ hgone (hsound.focused_eq_false hgone) (hsound.outbox_eq_nil hgone)

/-- A view that is gone has nothing to hand over. -/
theorem drain_of_gone {v : View} (hsound : v.Sound) (hgone : v.alive = false) :
    v.drain = ([], v) := by
  have hempty : v.outbox = [] := hsound.outbox_eq_nil hgone
  unfold drain
  rw [← hempty]

/-- **Whatever is done to a view that is gone**, it keeps its text, its selection and its silence. -/
theorem rests_act {v : View} (hsound : v.Sound) (hgone : v.alive = false) (c : Command) :
    v.Rests (v.act c) := by
  have hchange : Change v (v.act c) := change_act v c
  generalize v.act c = v' at hchange
  have hnot : v.alive ≠ true := by simp [hgone]
  cases hchange with
  | refused => exact ⟨_, _, _, rfl⟩
  | edit halive => exact absurd halive hnot
  | select halive => exact absurd halive hnot
  | setSelection halive => exact absurd halive hnot
  | replaceAll text halive => exact absurd halive hnot
  | viewport topLine height => exact ⟨_, _, _, rfl⟩
  | focus halive => exact absurd halive hnot
  | setEditable editable => exact ⟨_, _, _, rfl⟩
  | destroy =>
    rw [destroy_of_gone hsound hgone]
    exact ⟨_, _, _, rfl⟩
  | drain =>
    rw [drain_of_gone hsound hgone]
    exact ⟨_, _, _, rfl⟩

/-- A view that is gone takes no edits. -/
theorem perform_insert_snd_of_gone {v : View} (hgone : v.alive = false) (text : List Char) :
    (v.perform (.insert text)).2 = .edited false :=
  congrArg Prod.snd ((perform_of_refused (by simp [hgone])).1 text)

/-- Backspace is refused by a view that is gone. -/
theorem perform_deleteBackward_snd_of_gone {v : View} (hgone : v.alive = false) :
    (v.perform .deleteBackward).2 = .edited false :=
  congrArg Prod.snd (perform_of_refused (by simp [hgone])).2

end View

namespace Synchronizer

section

variable {ω : Type} [Widget ω] {s : Synchronizer ω}

/-- No text is put into a widget that is gone. -/
theorem setContent_of_gone (hgone : Widget.isAlive s.widget = false) (text : List Char) :
    s.setContent text = s :=
  setContent_of_same (by simp [hgone])

/-- Nor is it kept from being edited. -/
theorem setDisabled_of_gone (hgone : Widget.isAlive s.widget = false) (disabled : Bool) :
    s.setDisabled disabled = s := by
  simp [setDisabled, hgone]

/-- Of the wishes up to the request nothing is fulfilled, and the request is remembered. -/
theorem heed_of_gone (hgone : Widget.isAlive s.widget = false) (w : Wishes) :
    s.heed w = { s with lastRequest := w.selection } := by
  rw [heed, settle, setContent_of_gone hgone, setDisabled_of_gone hgone]

/-- Of all the wishes only the request is remembered. -/
theorem reconcile_of_gone (hgone : Widget.isAlive s.widget = false) (now : Nat) (w : Wishes) :
    s.reconcile now w = { s with lastRequest := w.selection } := by
  have hheed : s.heed w = { s with lastRequest := w.selection } := heed_of_gone hgone w
  cases h : s.request? w with
  | none => rw [reconcile_of_none h, hheed]
  | some r =>
    rw [reconcile_of_some h, hheed]
    exact congrArg Prod.fst
      (setSelection_of_gone (s := { s with lastRequest := w.selection }) hgone now r)

/-- No focus is given to a widget that is gone. -/
theorem pollDeferred_of_gone (hgone : Widget.isAlive s.widget = false) (now : Nat) :
    ∃ pendingFocus, s.pollDeferred now = ({ s with pendingFocus }, false) := by
  rcases early_or_due s now with h | ⟨deadline, hp, hdue⟩
  · exact ⟨s.pendingFocus, pollDeferred_of_early h⟩
  · refine ⟨none, ?_⟩
    rw [pollDeferred_of_due hp hdue]
    simp [hgone]

/-- **A widget that is gone and has nothing to hand over is left as it is** by every operation, and
the host is told nothing. -/
theorem perform_of_gone (hidle : s.phase = .idle) (hgone : Widget.isAlive s.widget = false)
    (hempty : Widget.drain s.widget = ([], s.widget)) (c : Command) :
    ∃ pendingFocus lastRequest, (s.perform c).1 = { s with pendingFocus, lastRequest } := by
  cases c with
  | processEvents =>
    refine ⟨s.pendingFocus, s.lastRequest, ?_⟩
    change s.processEvents = s
    rw [processEvents_of_idle hidle, hempty]
    simp
  | setContent text => exact ⟨_, _, setContent_of_gone hgone text⟩
  | setSelection now r =>
    rw [perform_setSelection, setSelection_of_gone hgone]
    exact ⟨_, _, rfl⟩
  | setDisabled disabled => exact ⟨_, _, setDisabled_of_gone hgone disabled⟩
  | reconcile now w => exact ⟨_, _, reconcile_of_gone hgone now w⟩
  | pollDeferred now =>
    obtain ⟨pendingFocus, hpoll⟩ := pollDeferred_of_gone hgone now
    exact ⟨pendingFocus, _, congrArg Prod.fst hpoll⟩
  | destroy =>
    refine ⟨none, s.lastRequest, ?_⟩
    change s.destroy = _
    rw [destroy_eq, ← hidle]
    simp [hgone]

end

variable {s : Synchronizer View}

/-- What becomes of a session once the view is gone: the view rests, and of the rest only what is
due and what is requested last changes. -/
def Quiet (s t : Synchronizer View) : Prop :=
  ∃ topLine height editable pendingFocus lastRequest,
    t = { s with
      widget := { s.widget with topLine, height, editable }
      pendingFocus, lastRequest }

namespace Quiet

/-- What is quiet step by step is quiet on the whole. -/
theorem trans {s t u : Synchronizer View} (h : Quiet s t) (h' : Quiet t u) : Quiet s u := by
  obtain ⟨_, _, _, _, _, rfl⟩ := h
  obtain ⟨_, _, _, _, _, rfl⟩ := h'
  exact ⟨_, _, _, _, _, rfl⟩

end Quiet

/-- A turn with a view that is gone is quiet. -/
theorem quiet_takeTurn (hidle : s.phase = .idle) (hsound : s.widget.Sound)
    (hgone : s.widget.alive = false) (t : Turn View.Command) :
    Quiet s (s.takeTurn View.act t) := by
  cases t with
  | widget c =>
    obtain ⟨topLine, height, editable, hact⟩ := View.rests_act hsound hgone c
    exact ⟨topLine, height, editable, _, _, congrArg (fun v => { s with widget := v }) hact⟩
  | command c =>
    obtain ⟨pendingFocus, lastRequest, hperform⟩ :=
      perform_of_gone hidle hgone (View.drain_of_gone hsound hgone) c
    exact ⟨_, _, _, pendingFocus, lastRequest, hperform⟩

/-- A whole session is quiet once the view is gone. -/
theorem quiet_run (hidle : s.phase = .idle) (hsound : s.widget.Sound)
    (hgone : s.widget.alive = false) (turns : List (Turn View.Command)) :
    Quiet s (s.run View.act turns) := by
  induction turns generalizing s with
  | nil => exact ⟨_, _, _, _, _, rfl⟩
  | cons t turns ih =>
    have hstep : Quiet s (s.takeTurn View.act t) := quiet_takeTurn hidle hsound hgone t
    have hsound' : (s.takeTurn View.act t).widget.Sound :=
      (reaches_takeTurn hidle t).sound hsound
    have hgone' : (s.takeTurn View.act t).widget.alive = false := by
      obtain ⟨_, _, _, _, _, h⟩ := hstep
      rw [h]
      exact hgone
    exact hstep.trans (ih (phase_takeTurn hidle t) hsound' hgone')

/-- **A view that is gone stays silent.**  From whatever point of a session at which the view is not
alive, and whatever is done from there on, the host hears nothing more; the view has no focus, no
events to hand over, and stays what it was but for the viewport and the leave to edit; and these two
no operation of the synchronizer touches.  Requests for a selection are met with success, no focus
is given, and no edit is made. -/
theorem silent_session (text : List Char) (height : Nat) (o : SyncOptions)
    (turns rest : List (Turn View.Command)) :
    let s := (ofText text height o).run View.act turns
    let t := s.run View.act rest
    s.widget.alive = false →
      t.heard = s.heard ∧
        (∃ topLine height editable,
          t.widget = { s.widget with topLine, height, editable }) ∧
        t.widget.alive = false ∧ t.widget.focused = false ∧ t.widget.outbox = [] ∧
        (∀ c : Command, (t.perform c).1.widget = t.widget) ∧
        (∀ now r, (t.setSelection now r).2 = .ok ()) ∧
        (∀ now, (t.pollDeferred now).2 = false) ∧
        (∀ text, (t.widget.perform (.insert text)).2 = .edited false) ∧
        (t.widget.perform .deleteBackward).2 = .edited false := by
  intro s t hgone
  have hidle : s.phase = .idle := phase_run rfl turns
  have hsound : s.widget.Sound := sound_session text height o turns
  have hidle' : t.phase = .idle := phase_run hidle rest
  have hsound' : t.widget.Sound := (reaches_run hidle rest).sound hsound
  have hquiet : Quiet s t := quiet_run hidle hsound hgone rest
  obtain ⟨topLine, height', editable, pendingFocus, lastRequest, ht⟩ := hquiet
  have hheard : t.heard = s.heard := by rw [ht]
  have hwidget : t.widget = { s.widget with topLine, height := height', editable } := by rw [ht]
  have hgone' : t.widget.alive = false := by
    rw [hwidget]
    exact hgone
  refine ⟨hheard, ⟨topLine, height', editable, hwidget⟩, hgone',
    hsound'.focused_eq_false hgone', hsound'.outbox_eq_nil hgone', ?_, ?_, ?_,
    View.perform_insert_snd_of_gone hgone', View.perform_deleteBackward_snd_of_gone hgone'⟩
  · intro c
    obtain ⟨_, _, hperform⟩ := perform_of_gone hidle' hgone' (View.drain_of_gone hsound' hgone') c
    rw [hperform]
  · intro now r
    rw [setSelection_of_gone hgone']
  · intro now
    obtain ⟨_, hpoll⟩ := pollDeferred_of_gone (s := t) hgone' now
    rw [hpoll]

/-- A view is torn down behind the back of its host, while events wait in it and a focus is due.
Neither comes through, nor does what user and host try afterwards. -/
theorem silent_session_of_pending :
    let turns : List (Turn View.Command) :=
      [.widget (.select 0 2), .command (.setSelection 0 ⟨1, 3⟩), .widget (.insert ['x']),
        .widget .destroy]
    let rest : List (Turn View.Command) :=
      [.command .processEvents, .command (.pollDeferred 100), .command (.setContent ['y']),
        .widget (.insert ['z']), .widget (.moveCursor 0), .widget .focus, .widget (.setHeight 3),
        .command (.reconcile 6 ⟨['y'], some ⟨-1, 9⟩, true⟩), .command .destroy]
    let s := (ofText ['a', 'b', 'c'] 1 {}).run View.act turns
    let t := s.run View.act rest
    s.pendingFocus = some 10 ∧ s.widget.alive = false ∧ t.heard = [.selected 0 2] ∧
      t.widget.text = ['a', 'x'] ∧ t.widget.focused = false := by
  intro turns rest s t
  have hpending : s.pendingFocus = some 10 := by decide
  have hgone : s.widget.alive = false := by decide
  obtain ⟨hheard, ⟨_, _, _, hwidget⟩, -, hfocused, -⟩ :=
    silent_session ['a', 'b', 'c'] 1 {} turns rest hgone
  have htext : t.widget.text = s.widget.text := by
    change (s.run View.act rest).widget.text = _
    rw [hwidget]
    rfl
  refine ⟨hpending, hgone, hheard.trans ?_, htext.trans ?_, hfocused⟩
  · decide
  · decide

end Synchronizer
end TuneEditor
