/-
# Host and editor agree

A host keeps a `Mirror` of its editor: it changes it by what the synchronizer
tells it, and when a selection that it asked for is made, it takes that one for
the selection (`Mirror.afterTurn`).  The editor here is a `View`, whose user
goes on editing and selecting between the turns.

The mirror may lag behind, since events wait in the view until they are taken;
but it is never wrong by more than those events (`lags_takeTurn`).  So the host
and the view agree whenever no events wait (`mirror_run`).

The one event that is kept from the host is the echo of its own request.  The
queue of a view is empty when it is told to select, so the echo is all that it
hands over then (`handOver_of_empty`), and the host has put the request into its
mirror itself.
-/

import TuneEditor.Proofs.View.Reports

namespace TuneEditor

/-- The mirror of a host whose request for a selection was granted, or that made none. -/
def Mirror.request (m : Mirror) : Option Selection → Mirror
  | some range => { m with selection := range }
  | none => m

namespace View

/-- A view whose events were all taken has nothing to hand over when it is told to select but the
echo, and it then shows that selection. -/
theorem handOver_of_empty {v : View} (hempty : v.outbox = []) (halive : v.alive = true)
    {range : Selection} (h₁ : range.start ≤ range.stop) (h₂ : range.stop ≤ v.document.size)
    (o : Scroll) :
    (Synchronizer.handOver v range o).1.eraseP Event.isSelection = [] ∧
      (Synchronizer.handOver v range o).2.news = [] ∧
      (Synchronizer.handOver v range o).2.shown = ⟨v.text, range⟩ := by
  have hbetween : Selection.between range.start range.stop = range := Selection.between_of_le h₁
  have hclamped : range.clamped v.document.size = range :=
    Selection.clamped_of_le (Nat.le_trans h₁ h₂) h₂
  have hset : v.setSelection range = v.applySelection range.start range.stop := by
    unfold setSelection
    rw [if_pos halive]
    dsimp only
    rw [hclamped]
  -- Scrolling touches neither the queue nor what is shown.
  have hscroll : ∀ w : View,
      (w.scrollIntoView range o).outbox = w.outbox ∧ (w.scrollIntoView range o).shown = w.shown := by
    intro w
    unfold scrollIntoView
    split
    · exact ⟨rfl, rfl⟩
    · exact ⟨rfl, rfl⟩
  obtain ⟨houtbox, hshown⟩ := hscroll (v.setSelection range)
  refine ⟨?_, rfl, ?_⟩
  · change ((v.setSelection range).scrollIntoView range o).outbox.eraseP _ = []
    rw [houtbox, hset, applySelection_eq]
    dsimp only
    rw [hempty]
    split
    · rfl
    · rfl
  · change ((v.setSelection range).scrollIntoView range o).shown = _
    rw [hshown, hset, applySelection_eq]
    exact congrArg (Mirror.mk v.text) hbetween

end View

namespace Synchronizer

/-- Whether a turn leaves the queue of a view to the synchronizer and the view in being. -/
def Turn.keepsQueue : Turn View.Command → Bool
  | .command .destroy => false
  | .command _ => true
  | .widget c => c.keepsQueue

/-- A mirror that lacks the events in the queue, and nothing else. -/
def Lags (m : Mirror) (s : Synchronizer View) : Prop :=
  m.hearAll s.widget.news = s.widget.shown

/-- From one state to another the host was told what keeps its mirror good, if it also takes over
the selection that was made for it. -/
def Informs (s s' : Synchronizer View) (made : Option Selection) : Prop :=
  ∃ ns : List Notice,
    s'.heard = s.heard ++ ns ∧ ∀ m, Lags m s → Lags ((m.hearAll ns).request made) s'

namespace Informs

/-- What informs the host stays informing if more is told behind it, where only the last step makes
a selection. -/
theorem trans {s t u : Synchronizer View} {made : Option Selection} (h : Informs s t none)
    (h' : Informs t u made) : Informs s u made := by
  obtain ⟨ns, hheard, hlags⟩ := h
  obtain ⟨ns', hheard', hlags'⟩ := h'
  refine ⟨ns ++ ns', ?_, ?_⟩
  · rw [hheard', hheard, List.append_assoc]
  · intro m hm
    rw [Mirror.hearAll_append]
    exact hlags' _ (hlags m hm)

/-- What is done to the view alone informs the host, as the view reports it. -/
theorem of_reports {s s' : Synchronizer View} (hheard : s'.heard = s.heard)
    (h : View.Reports s.widget s'.widget) : Informs s s' none :=
  ⟨[], by rw [hheard, List.append_nil], fun _ hm => h.hearAll_news hm⟩

/-- Where neither the view nor what was heard changes, the host lacks what it lacked. -/
theorem of_same {s s' : Synchronizer View} (hheard : s'.heard = s.heard)
    (hwidget : s'.widget = s.widget) : Informs s s' none :=
  of_reports hheard (hwidget ▸ View.Reports.refl s.widget)

end Informs

variable {s : Synchronizer View}

/-- Taking the events tells the host all that its mirror lacked. -/
theorem informs_processEvents (hidle : s.phase = .idle) : Informs s s.processEvents none := by
  rw [processEvents_of_idle hidle]
  refine ⟨s.widget.news, rfl, ?_⟩
  intro m hm
  exact hm

/-- A text of the host comes back to it as an event, which is taken at once, so the mirror is up to
date if the text was replaced, and as good as before if not. -/
theorem informs_setContent (hidle : s.phase = .idle) (text : List Char) :
    Informs s (s.setContent text) none := by
  unfold setContent
  split
  · have hreplace :
        Informs s { s with widget := Widget.replaceAll s.widget text } none :=
      .of_reports rfl (View.reports_replaceAll s.widget text)
    exact hreplace.trans (informs_processEvents hidle)
  · exact .of_same rfl rfl

/-- Whether the user may edit is not part of what a mirror shows. -/
theorem informs_setDisabled (disabled : Bool) : Informs s (s.setDisabled disabled) none := by
  unfold setDisabled
  split
  · exact .of_reports rfl (.of_same rfl rfl)
  · exact .of_same rfl rfl

/-- The wishes of a host, up to the request, are its text and whether the user may edit. -/
theorem informs_heed (hidle : s.phase = .idle) (w : Wishes) : Informs s (s.heed w) none :=
  (informs_setContent hidle w.text).trans (informs_setDisabled w.disabled)

/-- A request that is granted is answered by what happened before it and by nothing else, and the
view shows what was asked for. -/
theorem informs_setSelection (hidle : s.phase = .idle) (now : Nat) (r : SelectionRequest) :
    Informs s (s.setSelection now r).1 (grant? s.widget r) := by
  cases h : grant? s.widget r with
  | none =>
    rw [setSelection_of_none h, turnDown]
    split
    · exact .of_same rfl rfl
    · exact .of_same rfl rfl
  | some range =>
    obtain ⟨halive, hchecked⟩ := of_grant? h
    obtain ⟨hle, hfits⟩ := Selection.bounds_of_checked_ok hchecked
    rw [setSelection_of_granted hidle h]
    obtain ⟨htold, hnews, hshown⟩ :=
      View.handOver_of_empty (v := (Widget.drain s.widget).2) rfl halive hle hfits s.options.scroll
    refine ⟨s.widget.news, ?_, ?_⟩
    · dsimp only
      rw [htold]
      exact List.append_nil _
    · intro m hm
      unfold Lags at hm ⊢
      rw [hm, hnews]
      exact hshown.symm

/-- All its wishes are these, and the request if it is another one than before. -/
theorem informs_reconcile (hidle : s.phase = .idle) (now : Nat) (w : Wishes) :
    Informs s (s.reconcile now w) (s.granted (.reconcile now w)) := by
  rw [granted_reconcile]
  cases h : s.request? w with
  | none =>
    rw [reconcile_of_none h]
    exact informs_heed hidle w
  | some r =>
    rw [reconcile_of_some h]
    exact (informs_heed hidle w).trans (informs_setSelection (phase_heed hidle w) now r)

/-- The focus is not part of what a mirror shows either. -/
theorem informs_pollDeferred (now : Nat) : Informs s (s.pollDeferred now).1 none := by
  rcases early_or_due s now with h | ⟨deadline, hp, hdue⟩
  · rw [pollDeferred_of_early h]
    exact .of_same rfl rfl
  · rw [pollDeferred_of_due hp hdue]
    split
    · exact .of_reports rfl (View.reports_focus s.widget)
    · exact .of_same rfl rfl

/-- Whoever takes the turn, the host is told what keeps its mirror good, as long as the queue is
left to the synchronizer and the view is not torn down. -/
theorem informs_takeTurn (hidle : s.phase = .idle) {t : Turn View.Command}
    (h : t.keepsQueue = true) : Informs s (s.takeTurn View.act t) (s.grantedIn t) := by
  cases t with
  | widget c => exact .of_reports rfl (View.reports_act s.widget h)
  | command c =>
    cases c with
    | processEvents => exact informs_processEvents hidle
    | setContent text => exact informs_setContent hidle text
    | setSelection now r =>
      change Informs s (s.perform (.setSelection now r)).1 _
      rw [perform_setSelection]
      exact informs_setSelection hidle now r
    | setDisabled disabled => exact informs_setDisabled disabled
    | reconcile now w => exact informs_reconcile hidle now w
    | pollDeferred now => exact informs_pollDeferred now
    | destroy => cases h

end Synchronizer

namespace Mirror

/-- The mirror after a turn: the host hears what it is told in that turn, and then takes over the
selection that was made for it. -/
def afterTurn (m : Mirror) (s : Synchronizer View) (t : Synchronizer.Turn View.Command) : Mirror :=
  (m.hearAll ((s.takeTurn View.act t).heard.drop s.heard.length)).request (s.grantedIn t)

/-- The mirror after a session. -/
def afterRun (m : Mirror) (s : Synchronizer View) : List (Synchronizer.Turn View.Command) → Mirror
  | [] => m
  | t :: turns => (m.afterTurn s t).afterRun (s.takeTurn View.act t) turns

end Mirror

namespace Synchronizer

/-- A turn leaves the mirror behind by the events in the queue, as it was before. -/
theorem lags_takeTurn {s : Synchronizer View} (hidle : s.phase = .idle)
    {t : Turn View.Command} (h : t.keepsQueue = true) {m : Mirror} (hm : Lags m s) :
    Lags (m.afterTurn s t) (s.takeTurn View.act t) := by
  obtain ⟨ns, hheard, hlags⟩ := informs_takeTurn hidle h
  unfold Mirror.afterTurn
  rw [hheard, List.drop_left]
  exact hlags m hm

/-- Turn by turn the mirror lacks the events in the queue, and nothing else. -/
theorem lags_run {s : Synchronizer View} (hidle : s.phase = .idle)
    {turns : List (Turn View.Command)} (h : ∀ t ∈ turns, t.keepsQueue = true) {m : Mirror}
    (hm : Lags m s) : Lags (m.afterRun s turns) (s.run View.act turns) := by
  induction turns generalizing s m with
  | nil => exact hm
  | cons t turns ih =>
    rw [List.forall_mem_cons] at h
    exact ih (phase_takeTurn hidle t) h.2 (lags_takeTurn hidle h.1 hm)

/-- A synchronizer over a fresh view of a text. -/
def ofText (text : List Char) (height : Nat) (o : SyncOptions) : Synchronizer View where
  widget := .new text height
  options := o

/-- **The host and the view agree whenever no events wait.**  In any session in which nobody tears
the view down and nobody but the synchronizer takes its events, the mirror of the host is what the
view shows, once the queue is empty. -/
theorem mirror_run (text : List Char) (height : Nat) (o : SyncOptions)
    {turns : List (Turn View.Command)} (h : ∀ t ∈ turns, t.keepsQueue = true)
    (hempty : ((ofText text height o).run View.act turns).widget.outbox = []) :
    Mirror.afterRun ⟨text, .caret 0⟩ (ofText text height o) turns =
      ((ofText text height o).run View.act turns).widget.shown := by
  have hlags : Lags (Mirror.afterRun ⟨text, .caret 0⟩ (ofText text height o) turns)
      ((ofText text height o).run View.act turns) :=
    lags_run rfl h rfl
  unfold Lags View.news at hlags
  rw [hempty] at hlags
  exact hlags

/-- The user selects and types, the host shortens the text and asks for a selection, and the mirror
comes to the text and the selection of the view. -/
theorem mirror_run_of_shortened :
    let turns : List (Turn View.Command) :=
      [.widget (.select 3 1), .widget (.insert ['z']), .command (.setContent ['x', 'y']),
        .widget (.moveCursor 1), .command (.reconcile 0 ⟨['x', 'y'], some ⟨0, 2⟩, true⟩)]
    (∀ t ∈ turns, t.keepsQueue = true) ∧
      ((ofText ['a', 'b', 'c'] 1 {}).run View.act turns).widget.outbox = [] ∧
      Mirror.afterRun ⟨['a', 'b', 'c'], .caret 0⟩ (ofText ['a', 'b', 'c'] 1 {}) turns =
        ⟨['x', 'y'], ⟨0, 2⟩⟩ := by
  intro turns
  have hkeeps : ∀ t ∈ turns, t.keepsQueue = true := by decide
  have hempty : ((ofText ['a', 'b', 'c'] 1 {}).run View.act turns).widget.outbox = [] := by decide
  have hshown : ((ofText ['a', 'b', 'c'] 1 {}).run View.act turns).widget.shown =
      ⟨['x', 'y'], ⟨0, 2⟩⟩ := by decide
  exact ⟨hkeeps, hempty, (mirror_run ['a', 'b', 'c'] 1 {} hkeeps hempty).trans hshown⟩

end Synchronizer
end TuneEditor
