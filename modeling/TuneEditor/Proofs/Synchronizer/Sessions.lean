/-
# What a session does to a view

Between a host and a view a synchronizer does nothing to the view that could not
be done to it by commands (`reaches_takeTurn`).  So what is true of a view after
any commands is true of it in any session, however the turns of the host and those
of the user take each other's place: it is sound (`sound_session`).
-/

import TuneEditor.Proofs.Synchronizer.Agreement
import TuneEditor.Proofs.View.Soundness

namespace TuneEditor
namespace View

/-- Some commands make the second view of the first. -/
def Reaches (v v' : View) : Prop :=
  ∃ commands, v.run commands = v'

namespace Reaches

/-- A view is reached from itself by no commands. -/
theorem refl (v : View) : Reaches v v :=
  ⟨[], rfl⟩

/-- Commands may follow commands. -/
theorem trans {v v' v'' : View} (h : Reaches v v') (h' : Reaches v' v'') : Reaches v v'' := by
  obtain ⟨commands, rfl⟩ := h
  obtain ⟨commands', rfl⟩ := h'
  exact ⟨commands ++ commands', List.foldl_append⟩

/-- A command reaches what it makes of the view. -/
theorem act (v : View) (c : Command) : Reaches v (v.act c) :=
  ⟨[c], rfl⟩

/-- A view that is reached from a sound one is sound. -/
theorem sound {v v' : View} (h : Reaches v v') (hv : v.Sound) : v'.Sound := by
  obtain ⟨commands, rfl⟩ := h
  exact sound_run hv commands

end Reaches
end View

namespace Synchronizer

variable {s : Synchronizer View}

/-- Taking the events is the command that drains the queue. -/
theorem reaches_processEvents (hidle : s.phase = .idle) :
    s.widget.Reaches s.processEvents.widget := by
  rw [processEvents_of_idle hidle]
  exact .act s.widget .drain

/-- A text of the host is a replacement and a draining, if it is not there already. -/
theorem reaches_setContent (hidle : s.phase = .idle) (text : List Char) :
    s.widget.Reaches (s.setContent text).widget := by
  cases h : Widget.isAlive s.widget && Widget.text s.widget != text with
  | false =>
    rw [setContent_of_same h]
    exact .refl s.widget
  | true =>
    rw [setContent_of_other hidle h]
    exact ⟨[.replaceAll text, .drain], rfl⟩

/-- Keeping the user from editing is a command of the view. -/
theorem reaches_setDisabled (disabled : Bool) :
    s.widget.Reaches (s.setDisabled disabled).widget := by
  unfold setDisabled
  split
  · exact .act s.widget (.setEditable (!disabled))
  · exact .refl s.widget

/-- So the wishes of a host, up to the request, are commands. -/
theorem reaches_heed (hidle : s.phase = .idle) (w : Wishes) :
    s.widget.Reaches (s.heed w).widget :=
  (reaches_setContent hidle w.text).trans (reaches_setDisabled w.disabled)

/-- A selection made for the host is four commands: drain, select, scroll, drain. -/
theorem reaches_setSelection (hidle : s.phase = .idle) (now : Nat) (r : SelectionRequest) :
    s.widget.Reaches (s.setSelection now r).1.widget := by
  cases h : grant? s.widget r with
  | none =>
    obtain ⟨log, hturned⟩ := s.exists_turnDown_eq r
    rw [setSelection_of_none h, hturned]
    exact .refl s.widget
  | some range =>
    rw [setSelection_of_granted hidle h]
    exact ⟨[.drain, .setSelection range, .scrollIntoView range s.options.scroll, .drain], rfl⟩

/-- All its wishes are commands as well. -/
theorem reaches_reconcile (hidle : s.phase = .idle) (now : Nat) (w : Wishes) :
    s.widget.Reaches (s.reconcile now w).widget := by
  cases h : s.request? w with
  | none =>
    rw [reconcile_of_none h]
    exact reaches_heed hidle w
  | some r =>
    rw [reconcile_of_some h]
    exact (reaches_heed hidle w).trans (reaches_setSelection (phase_heed hidle w) now r)

/-- A look at the clock is a call for the focus, or nothing. -/
theorem reaches_pollDeferred (now : Nat) : s.widget.Reaches (s.pollDeferred now).1.widget := by
  obtain ⟨widget, pendingFocus, log, hpoll, hwidget⟩ := s.exists_pollDeferred_eq now
  rw [hpoll]
  rcases hwidget with rfl | rfl
  · exact .refl s.widget
  · exact .act s.widget .focus

/-- Tearing down is a command of the view. -/
theorem reaches_destroy : s.widget.Reaches s.destroy.widget := by
  rw [destroy_eq]
  dsimp only
  split
  · exact .act s.widget .destroy
  · exact .refl s.widget

/-- **A turn does nothing to a view that could not be done by commands.** -/
theorem reaches_takeTurn (hidle : s.phase = .idle) (t : Turn View.Command) :
    s.widget.Reaches (s.takeTurn View.act t).widget := by
  cases t with
  | widget c => exact .act s.widget c
  | command c =>
    cases c with
    | processEvents => exact reaches_processEvents hidle
    | setContent text => exact reaches_setContent hidle text
    | setSelection now r =>
      change s.widget.Reaches (s.perform (.setSelection now r)).1.widget
      rw [perform_setSelection]
      exact reaches_setSelection hidle now r
    | setDisabled disabled => exact reaches_setDisabled disabled
    | reconcile now w => exact reaches_reconcile hidle now w
    | pollDeferred now => exact reaches_pollDeferred now
    | destroy => exact reaches_destroy

/-- Any session does to a view what some commands would do. -/
theorem reaches_run (hidle : s.phase = .idle) (turns : List (Turn View.Command)) :
    s.widget.Reaches (s.run View.act turns).widget := by
  induction turns generalizing s with
  | nil => exact .refl s.widget
  | cons t turns ih => exact (reaches_takeTurn hidle t).trans (ih (phase_takeTurn hidle t))

/-- **The view of a session is sound**, whatever was done in the session. -/
theorem sound_session (text : List Char) (height : Nat) (o : SyncOptions)
    (turns : List (Turn View.Command)) :
    ((ofText text height o).run View.act turns).widget.Sound :=
  (reaches_run rfl turns).sound (View.sound_new text height)

end Synchronizer
end TuneEditor
