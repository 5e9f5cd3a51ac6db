/-
# It does not matter when events are taken

Whoever runs an editor takes the events of the view now and then, and how often is up to
them.  Two states are alike if taking the events makes one and the same of them
(`Alike`).  Whatever is done next, they stay alike (`alike_takeTurn`) and give the same
answer (`replyTo_eq`).  So two sessions in which the same is done, with the events
taken here and there, are alike at every point, and they end in the same state once the
events are taken (`run_of_same_deeds`).

What carries this is that a view never looks at its queue: events that wait there stay in
front of those that come of what is done next.  A request of the host that is granted
takes the events itself before it goes on, so what waits is told and not mistaken for
the echo.
-/

import TuneEditor.Proofs.Synchronizer.Requests
import TuneEditor.Proofs.View.Queue

namespace TuneEditor
namespace Synchronizer

/-! ### States that are alike -/

/-- The state once the host was told what the view has queued. -/
def told (s : Synchronizer View) : Synchronizer View :=
  { s with
    widget := s.widget.drain.2
    heard := s.heard ++ s.widget.outbox.map Event.notice }

/-- Two states that are the same once the events are taken. -/
def Alike (s u : Synchronizer View) : Prop :=
  s.told = u.told

variable {s u : Synchronizer View}

/-- Between the selections of the host, taking the events is telling it everything that waits. -/
theorem processEvents_eq_told (hidle : s.phase = .idle) : s.processEvents = s.told :=
  processEvents_of_idle hidle

/-- A view has nothing to hand over twice. -/
theorem alike_told (s : Synchronizer View) : Alike s.told s := by
  unfold Alike told
  simp only [View.drain, List.map_nil, List.append_nil]

namespace Alike

/-- What does not tell a state from the same with its events taken does not tell apart any two states
that are alike. -/
theorem map (h : Alike s u) (hs : s.phase = .idle) (hu : u.phase = .idle)
    {f : Synchronizer View → Synchronizer View}
    (hf : ∀ s : Synchronizer View, s.phase = .idle → Alike (f s.told) (f s)) :
    Alike (f s) (f u) :=
  calc (f s).told = (f s.told).told := (hf s hs).symm
    _ = (f u.told).told := by rw [h]
    _ = (f u).told := hf u hu

/-- Two synchronizers that are alike stay so when both take the events. -/
theorem processEvents (h : Alike s u) (hs : s.phase = .idle) (hu : u.phase = .idle) :
    Alike s.processEvents u.processEvents := by
  rw [processEvents_eq_told hs, processEvents_eq_told hu, h]
  rfl

/-- Views of states that are alike differ in the queue at most. -/
theorem drain_widget (h : Alike s u) : s.widget.drain.2 = u.widget.drain.2 :=
  congrArg Synchronizer.widget h

end Alike

/-! ### One turn -/

/-- A view that acts queues the same, whether what it had queued was taken or not. -/
theorem alike_act (s : Synchronizer View) {c : View.Command} (h : c.keepsQueue = true) :
    Alike { s.told with widget := s.told.widget.act c } { s with widget := s.widget.act c } := by
  unfold Alike told
  simp only [View.drain, View.queue, View.act_eq_queue s.widget h, List.map_append,
    List.append_assoc]

/-- A text of the host comes to the same: the event that reports it is told behind those that
waited. -/
theorem alike_setContent (hidle : s.phase = .idle) (text : List Char) :
    Alike (s.told.setContent text) (s.setContent text) := by
  have htold : s.told.setContent text =
      if Widget.isAlive s.widget && Widget.text s.widget != text then
        processEvents { s.told with widget := Widget.replaceAll s.told.widget text }
      else s.told := rfl
  rw [htold]
  unfold setContent
  split
  · have hreplaced :
        Alike { s.told with widget := Widget.replaceAll s.told.widget text }
          { s with widget := Widget.replaceAll s.widget text } :=
      alike_act s (c := .replaceAll text) rfl
    exact hreplaced.processEvents hidle hidle
  · exact alike_told s

/-- Keeping the user from editing makes no event, so it comes to the same. -/
theorem alike_setDisabled (s : Synchronizer View) (disabled : Bool) :
    Alike (s.told.setDisabled disabled) (s.setDisabled disabled) := by
  have htold : s.told.setDisabled disabled =
      if Widget.isAlive s.widget then
        { s.told with widget := Widget.setEditable s.told.widget (!disabled) }
      else s.told := rfl
  rw [htold]
  unfold setDisabled
  split
  · exact alike_act s (c := .setEditable (!disabled)) rfl
  · exact alike_told s

/-- So do the wishes of a host, up to the request. -/
theorem alike_heed (hidle : s.phase = .idle) (w : Wishes) :
    Alike (s.told.heed w) (s.heed w) := by
  have hsettle : Alike (s.told.settle w) (s.settle w) :=
    (alike_setContent hidle w.text).map (f := fun s => s.setDisabled w.disabled)
      (phase_setContent (s := s.told) hidle w.text) (phase_setContent hidle w.text)
      fun s _ => alike_setDisabled s w.disabled
  exact congrArg (fun u : Synchronizer View => { u with lastRequest := w.selection }) hsettle

/-- A request that is granted takes the events first, so it finds no other state when they were
taken before. -/
theorem alike_setSelection (hidle : s.phase = .idle) (now : Nat) (r : SelectionRequest) :
    Alike (s.told.setSelection now r).1 (s.setSelection now r).1 := by
  cases h : grant? s.widget r with
  | none =>
    have hrefused : grant? s.told.widget r = none := h
    have hturned : s.told.turnDown r = (s.turnDown r).told := by
      have htold : s.told.turnDown r =
          if Widget.isAlive s.widget then
            s.told.note (.rejected ⟨r, Widget.length s.widget⟩)
          else s.told := rfl
      rw [htold]
      unfold turnDown
      split
      · rfl
      · rfl
    rw [setSelection_of_none h, setSelection_of_none hrefused, hturned]
    exact alike_told _
  | some range =>
    have hgranted : grant? s.told.widget r = some range := h
    have htaken : s.told.processEvents = s.processEvents := by
      rw [processEvents_eq_told (s := s.told) hidle, processEvents_eq_told hidle]
      exact alike_told s
    rw [setSelection_of_some h, setSelection_of_some hgranted, htaken]
    rfl

/-- All its wishes come to the same, since a request has the waiting events told first anyway. -/
theorem alike_reconcile (hidle : s.phase = .idle) (now : Nat) (w : Wishes) :
    Alike (s.told.reconcile now w) (s.reconcile now w) := by
  cases h : s.request? w with
  | none =>
    have hnone : s.told.request? w = none := h
    rw [reconcile_of_none h, reconcile_of_none hnone]
    exact alike_heed hidle w
  | some r =>
    have hsome : s.told.request? w = some r := h
    rw [reconcile_of_some h, reconcile_of_some hsome]
    exact (alike_heed hidle w).map (f := fun s => (s.setSelection now r).1)
      (phase_heed (s := s.told) hidle w) (phase_heed hidle w)
      fun _ h => alike_setSelection h now r

/-- The focus is given or not, whether the events were taken or not. -/
theorem alike_pollDeferred (s : Synchronizer View) (now : Nat) :
    Alike (s.told.pollDeferred now).1 (s.pollDeferred now).1 ∧
      (s.told.pollDeferred now).2 = (s.pollDeferred now).2 := by
  rcases early_or_due s now with h | ⟨deadline, hp, hdue⟩
  · have hearly : ∀ deadline ∈ s.told.pendingFocus, now < deadline := h
    rw [pollDeferred_of_early h, pollDeferred_of_early hearly]
    exact ⟨alike_told s, rfl⟩
  · have hpending : s.told.pendingFocus = some deadline := hp
    rw [pollDeferred_of_due hp hdue, pollDeferred_of_due hpending hdue]
    by_cases halive : Widget.isAlive s.widget = true
    · have halive' : Widget.isAlive s.told.widget = true := halive
      rw [if_pos halive, if_pos halive']
      exact ⟨alike_act { s with pendingFocus := none, log := s.log ++ [.focused] }
        (c := .focus) rfl, rfl⟩
    · have hgone : ¬ Widget.isAlive s.told.widget = true := halive
      rw [if_neg halive, if_neg hgone]
      exact ⟨alike_told { s with pendingFocus := none }, rfl⟩

/-- **States that are alike stay alike**, whatever is done, as long as nobody tears the view down
and nobody but the synchronizer takes its events. -/
theorem alike_takeTurn (h : Alike s u) (hs : s.phase = .idle) (hu : u.phase = .idle)
    {t : Turn View.Command} (ht : t.keepsQueue = true) :
    Alike (s.takeTurn View.act t) (u.takeTurn View.act t) := by
  refine h.map (f := fun s => s.takeTurn View.act t) hs hu fun s hidle => ?_
  cases t with
  | widget c => exact alike_act s ht
  | command c =>
    cases c with
    | processEvents => exact (alike_told s).processEvents hidle hidle
    | setContent text => exact alike_setContent hidle text
    | setSelection now r =>
      change Alike (s.told.perform (.setSelection now r)).1 (s.perform (.setSelection now r)).1
      rw [perform_setSelection, perform_setSelection]
      exact alike_setSelection hidle now r
    | setDisabled disabled => exact alike_setDisabled s disabled
    | reconcile now w => exact alike_reconcile hidle now w
    | pollDeferred now => exact (alike_pollDeferred s now).1
    | destroy => cases ht

/-! ### What is answered -/

/-- What a turn is answered: by the synchronizer, or by the view. -/
def replyTo (s : Synchronizer View) : Turn View.Command → Reply ⊕ View.Reply
  | .command c => .inl (s.perform c).2
  | .widget c => .inr (s.widget.perform c).2

/-- The answer to a request depends on nothing of a view but its being alive and the length of its
text. -/
theorem setSelection_snd_congr (halive : Widget.isAlive s.widget = Widget.isAlive u.widget)
    (hlength : Widget.length s.widget = Widget.length u.widget) (now : Nat)
    (r : SelectionRequest) : (s.setSelection now r).2 = (u.setSelection now r).2 := by
  unfold setSelection
  rw [halive, hlength]
  split
  · cases Selection.checked r (Widget.length u.widget) with
    | error e => rfl
    | ok range => rfl
  · rfl

/-- A request is answered by whether it was refused. -/
theorem perform_setSelection_snd (s : Synchronizer View) (now : Nat) (r : SelectionRequest) :
    (s.perform (.setSelection now r)).2 =
      match (s.setSelection now r).2 with
      | .ok () => .accepted
      | .error e => .refused e := by
  cases h : s.setSelection now r with
  | mk t answer => cases answer <;> simp only [perform, h]

/-- A turn is answered alike whether the waiting events were told or not. -/
theorem replyTo_told (s : Synchronizer View) {t : Turn View.Command} (ht : t.keepsQueue = true) :
    s.told.replyTo t = s.replyTo t := by
  cases t with
  | widget c => exact congrArg Sum.inr (View.perform_drain_snd s.widget ht)
  | command c =>
    refine congrArg Sum.inl ?_
    cases c with
    | processEvents => rfl
    | setContent text => rfl
    | setSelection now r =>
      have hanswer : (s.told.setSelection now r).2 = (s.setSelection now r).2 :=
        setSelection_snd_congr (s := s.told) (u := s) rfl rfl now r
      rw [perform_setSelection_snd, perform_setSelection_snd, hanswer]
    | setDisabled disabled => rfl
    | reconcile now w => rfl
    | pollDeferred now => exact congrArg Reply.polled (alike_pollDeferred s now).2
    | destroy => rfl

/-- States that are alike give the same answer. -/
theorem replyTo_eq (h : Alike s u) {t : Turn View.Command} (ht : t.keepsQueue = true) :
    s.replyTo t = u.replyTo t :=
  calc s.replyTo t = s.told.replyTo t := (replyTo_told s ht).symm
    _ = u.told.replyTo t := by rw [h]
    _ = u.replyTo t := replyTo_told u ht

/-! ### Sessions -/

/-- Whether all that is done in a turn is that the synchronizer takes the events. -/
def Turn.takesEvents : Turn View.Command → Bool
  | .command .processEvents => true
  | _ => false

/-- What is done in a session besides the taking of events. -/
def deeds (turns : List (Turn View.Command)) : List (Turn View.Command) :=
  turns.filter fun t => !t.takesEvents

/-- What is answered in a session to what is done in it besides the taking of events. -/
def replies (s : Synchronizer View) : List (Turn View.Command) → List (Reply ⊕ View.Reply)
  | [] => []
  | t :: turns =>
    if t.takesEvents then replies (s.takeTurn View.act t) turns
    else s.replyTo t :: replies (s.takeTurn View.act t) turns

/-- Only one turn takes the events and does nothing else. -/
theorem Turn.eq_of_takesEvents {t : Turn View.Command} (h : t.takesEvents = true) :
    t = .command .processEvents := by
  unfold takesEvents at h
  split at h
  · rfl
  · cases h

/-- A turn that only takes the events is no deed. -/
theorem deeds_cons_of_takes {t : Turn View.Command} (h : t.takesEvents = true)
    (turns : List (Turn View.Command)) : deeds (t :: turns) = deeds turns :=
  List.filter_cons_of_neg (by simp [h])

/-- Any other turn is one. -/
theorem deeds_cons_of_not_takes {t : Turn View.Command} (h : t.takesEvents = false)
    (turns : List (Turn View.Command)) : deeds (t :: turns) = t :: deeds turns :=
  List.filter_cons_of_pos (by simp [h])

/-- A session is answered as it is without the taking of events, and is alike at its end. -/
theorem alike_run_deeds (h : Alike s u) (hs : s.phase = .idle) (hu : u.phase = .idle)
    {turns : List (Turn View.Command)} (hturns : ∀ t ∈ turns, t.keepsQueue = true) :
    s.replies turns = u.replies (deeds turns) ∧
      Alike (s.run View.act turns) (u.run View.act (deeds turns)) := by
  induction turns generalizing s u with
  | nil => exact ⟨rfl, h⟩
  | cons t turns ih =>
    rw [List.forall_mem_cons] at hturns
    obtain ⟨ht, hturns⟩ := hturns
    cases htakes : t.takesEvents with
    | true =>
      -- The other side goes without this turn, and has as much more to tell as was told here.
      have hstep : Alike (s.takeTurn View.act t) u := by
        obtain rfl := Turn.eq_of_takesEvents htakes
        change Alike s.processEvents u
        rw [processEvents_eq_told hs]
        exact (alike_told s).trans h
      rw [deeds_cons_of_takes htakes, replies, if_pos htakes]
      exact ih hstep (phase_takeTurn hs t) hu hturns
    | false =>
      have hstep : Alike (s.takeTurn View.act t) (u.takeTurn View.act t) :=
        alike_takeTurn h hs hu ht
      have hnot : ¬ t.takesEvents = true := by simp [htakes]
      obtain ⟨hreplies, hrun⟩ := ih hstep (phase_takeTurn hs t) (phase_takeTurn hu t) hturns
      rw [deeds_cons_of_not_takes htakes, replies, if_neg hnot, replies, if_neg hnot,
        replyTo_eq h ht, hreplies]
      exact ⟨rfl, hrun⟩

/-- Sessions in which the same is done are answered the same, and are alike at their ends. -/
theorem alike_run_of_same_deeds (hidle : s.phase = .idle) {turns turns' : List (Turn View.Command)}
    (h : ∀ t ∈ turns, t.keepsQueue = true) (h' : ∀ t ∈ turns', t.keepsQueue = true)
    (hsame : deeds turns = deeds turns') :
    s.replies turns = s.replies turns' ∧
      Alike (s.run View.act turns) (s.run View.act turns') := by
  obtain ⟨hreplies, hrun⟩ := alike_run_deeds (s := s) (u := s) rfl hidle hidle h
  obtain ⟨hreplies', hrun'⟩ := alike_run_deeds (s := s) (u := s) rfl hidle hidle h'
  rw [← hsame] at hreplies' hrun'
  exact ⟨hreplies.trans hreplies'.symm, hrun.trans hrun'.symm⟩

/-- The taking of events leaves the queue to the synchronizer, so only deeds can do otherwise. -/
theorem keepsQueue_of_deeds {turns : List (Turn View.Command)}
    (h : ∀ t ∈ deeds turns, t.keepsQueue = true) : ∀ t ∈ turns, t.keepsQueue = true := by
  intro t ht
  cases htakes : t.takesEvents with
  | true =>
    obtain rfl := Turn.eq_of_takesEvents htakes
    rfl
  | false => exact h t (List.mem_filter.2 ⟨ht, by simp [htakes]⟩)

/-- A session at whose end the events are taken has everything told. -/
theorem run_append_processEvents (hidle : s.phase = .idle) (turns : List (Turn View.Command)) :
    s.run View.act (turns ++ [.command .processEvents]) = (s.run View.act turns).told := by
  rw [run, List.foldl_append]
  exact processEvents_eq_told (phase_run hidle turns)

/-- **It does not matter when events are taken.**  In two sessions that begin in the same way the
same is done, and the events are taken here and there; nobody tears the view down, and nobody but
the synchronizer takes its events.  Then everything is answered the same, the views differ in the
queue at most whenever the same was done so far, and once the events are taken at the end the two
are in the same state: the view, what the host heard, the log and what is still to be done. -/
theorem run_of_same_deeds (v : View) (o : SyncOptions) {turns turns' : List (Turn View.Command)}
    (h : ∀ t ∈ turns, t.keepsQueue = true) (hsame : deeds turns = deeds turns') :
    let s : Synchronizer View := { widget := v, options := o }
    s.replies turns = s.replies turns' ∧
      (∀ front front', front <+: turns → front' <+: turns' → deeds front = deeds front' →
        { (s.run View.act front).widget with outbox := [] } =
          { (s.run View.act front').widget with outbox := [] }) ∧
      s.run View.act (turns ++ [.command .processEvents]) =
        s.run View.act (turns' ++ [.command .processEvents]) := by
  intro s
  have hidle : s.phase = .idle := rfl
  have h' : ∀ t ∈ turns', t.keepsQueue = true := by
    refine keepsQueue_of_deeds fun t ht => ?_
    rw [← hsame] at ht
    exact h t (List.mem_filter.1 ht).1
  obtain ⟨hreplies, hend⟩ := alike_run_of_same_deeds hidle h h' hsame
  refine ⟨hreplies, fun front front' hfront hfront' heq => ?_, ?_⟩
  · have halike : Alike (s.run View.act front) (s.run View.act front') :=
      (alike_run_of_same_deeds hidle (fun t ht => h t (hfront.subset ht))
        (fun t ht => h' t (hfront'.subset ht)) heq).2
    exact halike.drain_widget
  · rw [run_append_processEvents hidle, run_append_processEvents hidle]
    exact hend

/-- The user selects and types while the host asks for a selection, for one that does not fit and for
another text.  In the first session the events wait until the end, in the second they are taken
after each step, and a request finds nothing to tell before it. -/
theorem run_of_same_deeds_of_waiting :
    let s : Synchronizer View := { widget := .new ['a', 'b', 'c'] 1, options := {} }
    let waiting : List (Turn View.Command) :=
      [.widget (.select 3 1), .widget (.insert ['z']), .command (.setSelection 0 ⟨0, 1⟩),
        .widget (.moveCursor 1), .command (.setSelection 1 ⟨5, 2⟩),
        .command (.reconcile 2 ⟨['x'], none, true⟩), .widget .deleteBackward,
        .command (.pollDeferred 20)]
    let prompt := waiting.flatMap fun t => [t, .command .processEvents]
    deeds waiting = deeds prompt ∧
      s.replies prompt = [.inr .done, .inr (.edited true), .inl .accepted, .inr .done,
        .inl (.refused ⟨⟨5, 2⟩, 2⟩), .inl .done, .inr (.edited false), .inl (.polled true)] ∧
      (s.run View.act (prompt ++ [.command .processEvents])).heard =
        [.selected 1 3, .changed ['a', 'z'], .selected 2 2, .selected 1 1, .changed ['x']] := by
  intro s waiting prompt
  have hkeeps : ∀ t ∈ waiting, t.keepsQueue = true := by decide
  have hsame : deeds waiting = deeds prompt := by decide
  obtain ⟨hreplies, -, hend⟩ := run_of_same_deeds (.new ['a', 'b', 'c'] 1) {} hkeeps hsame
  refine ⟨hsame, hreplies.symm.trans ?_, (congrArg Synchronizer.heard hend).symm.trans ?_⟩
  · decide
  · decide

end Synchronizer
end TuneEditor
