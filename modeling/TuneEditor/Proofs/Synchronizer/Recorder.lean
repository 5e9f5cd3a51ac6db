/-
# A widget that writes down what is asked of it

`Recorder ω` is a widget of type `ω` with a record of the calls it has had, in
order, and of the events it handed over at each.  Questions that change nothing
are not written down, and neither is what the widget does by itself.

A recorder is a widget like any other, and the synchronizer cannot tell: a
session over a recorder is the session over the widget in it (`forget_run`).
What a record says of one is so said of the other.
-/

import TuneEditor.Proofs.Synchronizer.Operations

namespace TuneEditor

/-- Something asked of a widget. -/
inductive Call
  | replaceAll (text : List Char)
  | setSelection (s : Selection)
  | scrollIntoView (s : Selection) (o : Scroll)
  | focus
  | setEditable (editable : Bool)
  | destroy
  /-- The events were taken, and these they were. -/
  | drain (events : List Event)
  deriving DecidableEq, Repr

/-- A widget and the calls it has had. -/
structure Recorder (ω : Type) where
  widget : ω
  calls : List Call := []

variable {ω α : Type}

namespace Recorder

/-- The recorder after a call that leaves the widget as given. -/
def record (r : Recorder ω) (c : Call) (widget : ω) : Recorder ω :=
  ⟨widget, r.calls ++ [c]⟩

/-- The widget acts by itself. -/
def act (act : ω → α → ω) (r : Recorder ω) (a : α) : Recorder ω :=
  { r with widget := act r.widget a }

instance [Widget ω] : Widget (Recorder ω) where
  isAlive r := Widget.isAlive r.widget
  text r := Widget.text r.widget
  length r := Widget.length r.widget
  selection r := Widget.selection r.widget
  replaceAll r text := r.record (.replaceAll text) (Widget.replaceAll r.widget text)
  setSelection r s := r.record (.setSelection s) (Widget.setSelection r.widget s)
  scrollIntoView r s o := r.record (.scrollIntoView s o) (Widget.scrollIntoView r.widget s o)
  focus r := r.record .focus (Widget.focus r.widget)
  setEditable r b := r.record (.setEditable b) (Widget.setEditable r.widget b)
  destroy r := r.record .destroy (Widget.destroy r.widget)
  drain r :=
    let (events, widget) := Widget.drain r.widget
    (events, r.record (.drain events) widget)

end Recorder

namespace Synchronizer

/-- The synchronizer without the record of its widget. -/
def forget (s : Synchronizer (Recorder ω)) : Synchronizer ω :=
  { s with widget := s.widget.widget }

/-- An event is passed on without looking at the widget, and so without looking at a record. -/
theorem forget_dispatch (s : Synchronizer (Recorder ω)) (e : Event) :
    (s.dispatch e).forget = s.forget.dispatch e := by
  cases e with
  | content text => rfl
  | selection r =>
    obtain ⟨w, o, phase, _, _, _, _⟩ := s
    cases phase <;> rfl

/-- So are events that follow each other. -/
theorem forget_foldl_dispatch (s : Synchronizer (Recorder ω)) (es : List Event) :
    (es.foldl dispatch s).forget = es.foldl dispatch s.forget := by
  induction es generalizing s with
  | nil => rfl
  | cons e es ih => rw [List.foldl_cons, ih, forget_dispatch, List.foldl_cons]

variable [Widget ω]

/-- A recorder hands over the events of its widget. -/
theorem forget_processEvents (s : Synchronizer (Recorder ω)) :
    s.processEvents.forget = s.forget.processEvents :=
  forget_foldl_dispatch _ _

/-- Whether a text is there already is asked of the widget in the recorder. -/
theorem forget_setContent (s : Synchronizer (Recorder ω)) (text : List Char) :
    (s.setContent text).forget = s.forget.setContent text := by
  unfold setContent
  rw [apply_ite forget, forget_processEvents]
  rfl

/-- Keeping the user from editing does the same to a recorder as to its widget. -/
theorem forget_setDisabled (s : Synchronizer (Recorder ω)) (disabled : Bool) :
    (s.setDisabled disabled).forget = s.forget.setDisabled disabled := by
  unfold setDisabled
  rw [apply_ite forget]
  rfl

/-- A request is turned down with the same words. -/
theorem forget_turnDown (s : Synchronizer (Recorder ω)) (r : SelectionRequest) :
    (s.turnDown r).forget = s.forget.turnDown r := by
  unfold turnDown
  rw [apply_ite forget]
  rfl

/-- A request is granted or refused alike, and a selection is made alike. -/
theorem forget_setSelection (s : Synchronizer (Recorder ω)) (now : Nat) (r : SelectionRequest) :
    (s.setSelection now r).1.forget = (s.forget.setSelection now r).1 := by
  -- The recorder answers questions as its widget does.
  have hgrant : grant? s.forget.widget r = grant? s.widget r := rfl
  cases h : grant? s.widget r with
  | none =>
    rw [setSelection_of_none h, setSelection_of_none (hgrant.trans h), forget_turnDown]
  | some range =>
    rw [setSelection_of_some h, setSelection_of_some (hgrant.trans h)]
    change ((s.processEvents.beginSelection range).processEvents.forget).endSelection now = _
    rw [forget_processEvents]
    change ((s.processEvents.forget.beginSelection range).processEvents).endSelection now = _
    rw [forget_processEvents]

/-- The text of a host and its lock are settled alike. -/
theorem forget_settle (s : Synchronizer (Recorder ω)) (w : Wishes) :
    (s.settle w).forget = s.forget.settle w := by
  unfold settle
  rw [forget_setDisabled, forget_setContent]

/-- Its wishes up to the request are fulfilled alike. -/
theorem forget_heed (s : Synchronizer (Recorder ω)) (w : Wishes) :
    (s.heed w).forget = s.forget.heed w := by
  unfold heed
  rw [← forget_settle]
  rfl

/-- So are all its wishes. -/
theorem forget_reconcile (s : Synchronizer (Recorder ω)) (now : Nat) (w : Wishes) :
    (s.reconcile now w).forget = s.forget.reconcile now w := by
  have hrequest : s.forget.request? w = s.request? w := rfl
  cases h : s.request? w with
  | none => rw [reconcile_of_none h, reconcile_of_none (hrequest.trans h), forget_heed]
  | some r =>
    rw [reconcile_of_some h, reconcile_of_some (hrequest.trans h), forget_setSelection,
      forget_heed]

/-- The focus is given at the same instant. -/
theorem forget_pollDeferred (s : Synchronizer (Recorder ω)) (now : Nat) :
    (s.pollDeferred now).1.forget = (s.forget.pollDeferred now).1 := by
  rcases early_or_due s now with h | ⟨deadline, hp, hdue⟩
  · rw [pollDeferred_of_early h, pollDeferred_of_early (s := s.forget) h]
  · rw [pollDeferred_of_due hp hdue,
      pollDeferred_of_due (s := s.forget) hp hdue,
      apply_ite Prod.fst, apply_ite forget, apply_ite Prod.fst]
    rfl

/-- A recorder is torn down as its widget is. -/
theorem forget_destroy (s : Synchronizer (Recorder ω)) : s.destroy.forget = s.forget.destroy := by
  unfold destroy
  exact apply_ite forget _ _ _

/-- Every command does the same to a recorder as to its widget. -/
theorem forget_perform (s : Synchronizer (Recorder ω)) (c : Command) :
    (s.perform c).1.forget = (s.forget.perform c).1 := by
  cases c with
  | processEvents => exact forget_processEvents s
  | setContent text => exact forget_setContent s text
  | setSelection now r =>
    rw [perform_setSelection, perform_setSelection, forget_setSelection]
  | setDisabled disabled => exact forget_setDisabled s disabled
  | reconcile now w => exact forget_reconcile s now w
  | pollDeferred now => exact forget_pollDeferred s now
  | destroy => exact forget_destroy s

/-- So does every turn: by itself a recorder acts as its widget does. -/
theorem forget_takeTurn (act : ω → α → ω) (s : Synchronizer (Recorder ω)) (t : Turn α) :
    (s.takeTurn (Recorder.act act) t).forget = s.forget.takeTurn act t := by
  cases t with
  | command c => exact forget_perform s c
  | widget a => rfl

/-- **A session over a recorder is the session over its widget.** -/
theorem forget_run (act : ω → α → ω) (s : Synchronizer (Recorder ω)) (turns : List (Turn α)) :
    (s.run (Recorder.act act) turns).forget = s.forget.run act turns := by
  induction turns generalizing s with
  | nil => rfl
  | cons t turns ih =>
    rw [run, List.foldl_cons]
    change ((s.takeTurn (Recorder.act act) t).run (Recorder.act act) turns).forget = _
    rw [ih, forget_takeTurn]
    rfl

/-- What a command is granted does not depend on the record. -/
theorem granted_forget (s : Synchronizer (Recorder ω)) (c : Command) :
    s.forget.granted c = s.granted c := by
  cases c with
  | reconcile now w =>
    rw [granted_reconcile, granted_reconcile, ← forget_heed]
    rfl
  | _ => rfl

/-- The selections made for the host are the same ones. -/
theorem grants_forget (act : ω → α → ω) (s : Synchronizer (Recorder ω)) (turns : List (Turn α)) :
    grants act s.forget turns = grants (Recorder.act act) s turns := by
  induction turns generalizing s with
  | nil => rfl
  | cons t turns ih =>
    have hgranted : s.forget.grantedIn t = s.grantedIn t := by
      cases t with
      | command c => exact granted_forget s c
      | widget a => rfl
    rw [grants, grants, hgranted, ← forget_takeTurn, ih]

end Synchronizer
end TuneEditor
