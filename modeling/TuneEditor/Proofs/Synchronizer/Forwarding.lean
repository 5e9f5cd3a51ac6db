/-
# What the host hears

A synchronizer deals with its widget in exchanges: it takes the events, or
replaces the text and takes the events, or makes a selection for the host, for
which it takes the events before and after, or does something that is followed
by no hand-over.  `Exchange.calls` are the calls that the widget gets in an
exchange and `Exchange.told` is what the host hears in it:

| exchange | told |
|---|---|
| `drained`, `replaced` | every event |
| `selected` | every event but the first change of the selection in the second hand-over |
| any other | nothing |

`heard_run` says that every session, over whatever widget, is a list of
exchanges: the calls that a recorder has on record are those of the exchanges,
what the host has heard is what they tell, and the selections made are those
that requests were granted.
-/

import TuneEditor.Proofs.Synchronizer.Recorder

namespace TuneEditor

/-- What a synchronizer does to its widget in one go, and the events that it gets for it. -/
inductive Exchange
  | drained (events : List Event)
  | replaced (text : List Char) (events : List Event)
  /-- A selection made for the host, with the events from before and those that came of it. -/
  | selected (range : Selection) (o : Scroll) (before after : List Event)
  | editable (b : Bool)
  | focused
  | destroyed
  deriving DecidableEq, Repr

namespace Exchange

/-- The calls that the widget gets. -/
def calls : Exchange → List Call
  | drained es => [.drain es]
  | replaced text es => [.replaceAll text, .drain es]
  | selected range o before after =>
    [.drain before, .setSelection range, .scrollIntoView range o, .drain after]
  | editable b => [.setEditable b]
  | focused => [.focus]
  | destroyed => [.destroy]

/-- What the host hears. -/
def told : Exchange → List Notice
  | drained es => es.map Event.notice
  | replaced _ es => es.map Event.notice
  | selected _ _ before after => (before ++ after.eraseP Event.isSelection).map Event.notice
  | _ => []

/-- The selection that is made for the host, if one is. -/
def range? : Exchange → Option Selection
  | selected range _ _ _ => some range
  | _ => none

end Exchange

namespace Synchronizer

variable {ω α : Type}

/-- From one state to another there were exchanges, in which the given selections were made. -/
def Exchanged (s s' : Synchronizer (Recorder ω)) (made : List Selection) : Prop :=
  ∃ xs : List Exchange,
    s'.widget.calls = s.widget.calls ++ xs.flatMap Exchange.calls ∧
      s'.heard = s.heard ++ xs.flatMap Exchange.told ∧ xs.filterMap Exchange.range? = made

namespace Exchanged

/-- Where nothing is done there is no exchange. -/
theorem refl (s : Synchronizer (Recorder ω)) : Exchanged s s [] :=
  ⟨[], by simp, by simp, rfl⟩

/-- The exchanges of two steps follow each other. -/
theorem trans {s t u : Synchronizer (Recorder ω)} {a b : List Selection}
    (h : Exchanged s t a) (h' : Exchanged t u b) : Exchanged s u (a ++ b) := by
  obtain ⟨xs, hcalls, hheard, hmade⟩ := h
  obtain ⟨ys, hcalls', hheard', hmade'⟩ := h'
  refine ⟨xs ++ ys, ?_, ?_, ?_⟩
  · rw [hcalls', hcalls, List.flatMap_append, List.append_assoc]
  · rw [hheard', hheard, List.flatMap_append, List.append_assoc]
  · rw [List.filterMap_append, hmade, hmade']

/-- A single exchange. -/
theorem single {s s' : Synchronizer (Recorder ω)} (x : Exchange)
    (hcalls : s'.widget.calls = s.widget.calls ++ x.calls)
    (hheard : s'.heard = s.heard ++ x.told) : Exchanged s s' x.range?.toList := by
  refine ⟨[x], by simpa using hcalls, by simpa using hheard, ?_⟩
  cases h : x.range? <;> simp [h]

end Exchanged

variable [Widget ω] {s : Synchronizer (Recorder ω)}

/-- Taking the events is an exchange in which the host hears all of them. -/
theorem exchanged_processEvents (hidle : s.phase = .idle) : Exchanged s s.processEvents [] := by
  rw [processEvents_of_idle hidle]
  exact .single (.drained (Widget.drain s.widget.widget).1) rfl rfl

/-- A text of the host is replaced and the events are taken, in one exchange. If it is there already
there is none. -/
theorem exchanged_setContent (hidle : s.phase = .idle) (text : List Char) :
    Exchanged s (s.setContent text) [] := by
  cases h : Widget.isAlive s.widget && Widget.text s.widget != text with
  | false =>
    rw [setContent_of_same h]
    exact .refl s
  | true =>
    rw [setContent_of_other hidle h]
    refine .single
      (.replaced text (Widget.drain (Widget.replaceAll s.widget.widget text)).1) ?_ rfl
    exact List.append_assoc ..

/-- Keeping the user from editing is an exchange in which nothing is heard. -/
theorem exchanged_setDisabled (disabled : Bool) : Exchanged s (s.setDisabled disabled) [] := by
  unfold setDisabled
  split
  · exact .single (.editable (!disabled)) rfl (List.append_nil _).symm
  · exact .refl s

/-- The wishes of a host, up to the request, make no selection. -/
theorem exchanged_heed (hidle : s.phase = .idle) (w : Wishes) : Exchanged s (s.heed w) [] :=
  (exchanged_setContent hidle w.text).trans (exchanged_setDisabled w.disabled)

/-- A request makes the selection that it is granted, and no other. -/
theorem exchanged_setSelection (hidle : s.phase = .idle) (now : Nat) (r : SelectionRequest) :
    Exchanged s (s.setSelection now r).1 (grant? s.widget r).toList := by
  cases h : grant? s.widget r with
  | none =>
    rw [setSelection_of_none h, turnDown]
    split
    · exact .refl s
    · exact .refl s
  | some range =>
    rw [setSelection_of_granted hidle h]
    let before := Widget.drain s.widget.widget
    let after := handOver before.2 range s.options.scroll
    have hcalls : s.widget.calls ++ [.drain before.1] ++ [.setSelection range] ++
        [.scrollIntoView range s.options.scroll] ++ [.drain after.1] =
          s.widget.calls ++
            (Exchange.selected range s.options.scroll before.1 after.1).calls := by
      simp [Exchange.calls]
    have hheard : s.heard ++ before.1.map Event.notice ++
        (after.1.eraseP Event.isSelection).map Event.notice =
          s.heard ++ (Exchange.selected range s.options.scroll before.1 after.1).told := by
      simp [Exchange.told]
    exact .single (.selected range s.options.scroll before.1 after.1) hcalls hheard

/-- All its wishes make a selection just if the request is taken up and granted. -/
theorem exchanged_reconcile (hidle : s.phase = .idle) (now : Nat) (w : Wishes) :
    Exchanged s (s.reconcile now w) (s.granted (.reconcile now w)).toList := by
  rw [granted_reconcile]
  cases h : s.request? w with
  | none =>
    rw [reconcile_of_none h]
    exact exchanged_heed hidle w
  | some r =>
    rw [reconcile_of_some h]
    exact (exchanged_heed hidle w).trans (exchanged_setSelection (phase_heed hidle w) now r)

/-- A look at the clock is an exchange if the focus is given, and none if not. -/
theorem exchanged_pollDeferred (now : Nat) : Exchanged s (s.pollDeferred now).1 [] := by
  rcases early_or_due s now with h | ⟨deadline, hp, hdue⟩
  · rw [pollDeferred_of_early h]
    exact .refl s
  · rw [pollDeferred_of_due hp hdue]
    split
    · exact .single .focused rfl (List.append_nil _).symm
    · exact .refl s

/-- So is tearing the widget down, the last one. -/
theorem exchanged_destroy : Exchanged s s.destroy [] := by
  rw [destroy_eq]
  split
  · exact .single .destroyed rfl (List.append_nil _).symm
  · exact .refl s

/-- An operation is made of exchanges, and makes the selection that it is granted. -/
theorem exchanged_perform (hidle : s.phase = .idle) (c : Command) :
    Exchanged s (s.perform c).1 (s.granted c).toList := by
  cases c with
  | processEvents => exact exchanged_processEvents hidle
  | setContent text => exact exchanged_setContent hidle text
  | setSelection now r =>
    rw [perform_setSelection]
    exact exchanged_setSelection hidle now r
  | setDisabled disabled => exact exchanged_setDisabled disabled
  | reconcile now w => exact exchanged_reconcile hidle now w
  | pollDeferred now => exact exchanged_pollDeferred now
  | destroy => exact exchanged_destroy

/-- A turn is made of exchanges, and the selection that is made in it is the one that is granted. -/
theorem exchanged_takeTurn (act : ω → α → ω) (hidle : s.phase = .idle) (t : Turn α) :
    Exchanged s (s.takeTurn (Recorder.act act) t) (s.grantedIn t).toList := by
  cases t with
  | command c => exact exchanged_perform hidle c
  | widget a => exact .refl s

/-- So is a session, and the selections made are those granted in its turns. -/
theorem exchanged_run (act : ω → α → ω) (hidle : s.phase = .idle) (turns : List (Turn α)) :
    Exchanged s (s.run (Recorder.act act) turns) (grants (Recorder.act act) s turns) := by
  induction turns generalizing s with
  | nil => exact .refl s
  | cons t turns ih =>
    exact (exchanged_takeTurn act hidle t).trans (ih (phase_takeTurn hidle t))

/-- **What the host hears is what the widget hands over, but for the echoes.**  Over any widget,
and whatever it does between the turns, a session is a list of exchanges.  A recorder in place of
the widget changes nothing and has the calls of the exchanges on record; the host has heard what
they tell; the selections made are those that requests were granted; and the phase is idle. -/
theorem heard_run (act : ω → α → ω) (w : ω) (o : SyncOptions) (turns : List (Turn α)) :
    let s : Synchronizer ω := run act { widget := w, options := o } turns
    let t : Synchronizer (Recorder ω) :=
      run (Recorder.act act) { widget := { widget := w }, options := o } turns
    ∃ xs : List Exchange,
      t.forget = s ∧
        t.widget.calls = xs.flatMap Exchange.calls ∧
        s.heard = xs.flatMap Exchange.told ∧
        xs.filterMap Exchange.range? = grants act { widget := w, options := o } turns ∧
        s.phase = .idle := by
  intro s t
  have hforget : t.forget = s := forget_run act _ turns
  obtain ⟨xs, hcalls, hheard, hmade⟩ :=
    exchanged_run (s := { widget := { widget := w }, options := o }) act rfl turns
  refine ⟨xs, hforget, hcalls, ?_, ?_, phase_run rfl turns⟩
  · rw [← hforget]
    exact hheard
  · rw [hmade, ← grants_forget]
    rfl

end Synchronizer
end TuneEditor
