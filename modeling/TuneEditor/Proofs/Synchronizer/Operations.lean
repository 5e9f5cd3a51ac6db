/-
# What the operations of a synchronizer do

Between two operations the phase is idle (`phase_run`), and in that phase every
event that the widget hands over is told to the host, in order
(`processEvents_of_idle`).  Only while a selection is made for the host does the
phase `applying` last for the length of one hand-over, and there the first
change of the selection is kept from the host (`foldl_dispatch_of_applying`).

`grant?` says what becomes of a request for a selection, `setSelection_of_none`
and `setSelection_of_granted` what the synchronizer is afterwards, and `grants`
lists the selections that were made for the host in a session.
-/

import TuneEditor.Proofs.Selection
import TuneEditor.Synchronizer.Command

namespace TuneEditor

namespace Event

/-- An event in the words of the host. -/
def notice : Event → Notice
  | content text => .changed text
  | selection s => .selected s.start s.stop

/-- Whether an event is a change of the selection. -/
def isSelection : Event → Bool
  | content _ => false
  | selection _ => true

/-- What the log says of an event that is kept from the host. -/
def suppressed? : Event → Option LogRecord
  | content _ => none
  | selection s => some (.suppressed s)

end Event

/-- How a selection of the host is brought into view. -/
def SyncOptions.scroll (o : SyncOptions) : Scroll :=
  { centered := true, margin := o.scrollMargin }

namespace Synchronizer

variable {ω α : Type}

/-! ### Events passed on -/

/-- As long as no selection is made for the host, it hears of every event. -/
theorem dispatch_of_idle {s : Synchronizer ω} (h : s.phase = .idle) (e : Event) :
    s.dispatch e = s.tell e.notice := by
  cases e with
  | content text => rfl
  | selection r => simp only [dispatch, selectionChanged, h, Event.notice]

/-- In the idle phase the host is told of every event. -/
theorem foldl_dispatch_of_idle {s : Synchronizer ω} (h : s.phase = .idle) (es : List Event) :
    es.foldl dispatch s = { s with heard := s.heard ++ es.map Event.notice } := by
  induction es generalizing s with
  | nil => simp
  | cons e es ih =>
    have hidle : (s.tell e.notice).phase = .idle := h
    rw [List.foldl_cons, dispatch_of_idle h, ih hidle]
    simp [tell]

/-- While a selection is made for the host, it is told of every event but the first change of the
selection, and that change ends the phase. -/
theorem foldl_dispatch_of_applying {s : Synchronizer ω} (h : s.phase = .applying)
    (es : List Event) :
    es.foldl dispatch s =
      { s with
        heard := s.heard ++ (es.eraseP Event.isSelection).map Event.notice
        log := s.log ++ (es.findSome? Event.suppressed?).toList
        phase := if es.any Event.isSelection then .idle else .applying } := by
  induction es generalizing s with
  | nil => simp [← h]
  | cons e es ih =>
    rw [List.foldl_cons]
    cases e with
    | content text =>
      have happlying : (s.dispatch (.content text)).phase = .applying := h
      rw [ih happlying]
      simp [dispatch, contentChanged, tell, Event.isSelection, Event.notice, Event.suppressed?,
        List.findSome?_cons]
    | selection r =>
      -- From here on the phase is idle, so the rest is told in full.
      have hd : s.dispatch (.selection r) = { s.note (.suppressed r) with phase := .idle } := by
        simp only [dispatch, selectionChanged, h]
      rw [hd, foldl_dispatch_of_idle rfl]
      simp [note, Event.isSelection, Event.suppressed?, List.findSome?_cons, List.eraseP_cons]

/-- Whatever the phase, passing events on changes nothing but the phase, what the host hears and what
is logged. -/
theorem exists_foldl_dispatch_eq (s : Synchronizer ω) (es : List Event) :
    ∃ phase heard log, es.foldl dispatch s = { s with phase, heard, log } := by
  cases h : s.phase with
  | idle =>
    rw [foldl_dispatch_of_idle h]
    exact ⟨s.phase, _, s.log, rfl⟩
  | applying =>
    rw [foldl_dispatch_of_applying h]
    exact ⟨_, _, _, rfl⟩

/-- Passing events on does not touch the request that was heard last. -/
theorem lastRequest_foldl_dispatch (s : Synchronizer ω) (es : List Event) :
    (es.foldl dispatch s).lastRequest = s.lastRequest := by
  obtain ⟨phase, heard, log, h⟩ := s.exists_foldl_dispatch_eq es
  rw [h]

/-- Either no focus is due yet, or one is. -/
theorem early_or_due (s : Synchronizer ω) (now : Nat) :
    (∀ deadline ∈ s.pendingFocus, now < deadline) ∨
      ∃ deadline, s.pendingFocus = some deadline ∧ deadline ≤ now := by
  by_cases h : ∀ deadline ∈ s.pendingFocus, now < deadline
  · exact .inl h
  · obtain ⟨deadline, hd⟩ := Classical.not_forall.1 h
    obtain ⟨hp, hdue⟩ := Classical.not_imp.1 hd
    exact .inr ⟨deadline, hp, Nat.not_lt.1 hdue⟩

variable [Widget ω]

/-- Between the selections of the host it hears of all events that are taken, and the log stays as
it is. -/
theorem processEvents_of_idle {s : Synchronizer ω} (h : s.phase = .idle) :
    s.processEvents =
      { s with
        widget := (Widget.drain s.widget).2
        heard := s.heard ++ (Widget.drain s.widget).1.map Event.notice } := by
  have hidle : ({ s with widget := (Widget.drain s.widget).2 } : Synchronizer ω).phase = .idle := h
  exact foldl_dispatch_of_idle hidle _

/-- While a selection is made for it, it hears of all but the first change of the selection, which
goes to the log. -/
theorem processEvents_of_applying {s : Synchronizer ω} (h : s.phase = .applying) :
    s.processEvents =
      { s with
        widget := (Widget.drain s.widget).2
        heard := s.heard ++
          ((Widget.drain s.widget).1.eraseP Event.isSelection).map Event.notice
        log := s.log ++ ((Widget.drain s.widget).1.findSome? Event.suppressed?).toList
        phase := if (Widget.drain s.widget).1.any Event.isSelection then .idle else .applying } := by
  have happlying :
      ({ s with widget := (Widget.drain s.widget).2 } : Synchronizer ω).phase = .applying := h
  exact foldl_dispatch_of_applying happlying _

/-- In either phase only what is heard, the log and the phase may change besides the widget. -/
theorem exists_processEvents_eq (s : Synchronizer ω) :
    ∃ phase heard log,
      s.processEvents = { s with widget := (Widget.drain s.widget).2, phase, heard, log } :=
  exists_foldl_dispatch_eq _ _

/-! ### Requests for a selection -/

/-- The selection that a request comes to: none if the widget is gone or the request does not fit
its text. -/
def grant? (w : ω) (r : SelectionRequest) : Option Selection :=
  if Widget.isAlive w then (Selection.checked r (Widget.length w)).toOption else none

/-- A widget told to select something and to show it, and what it hands over then. -/
def handOver (w : ω) (range : Selection) (o : Scroll) : List Event × ω :=
  Widget.drain (Widget.scrollIntoView (Widget.setSelection w range) range o)

/-- A request that comes to nothing: a widget that lives has it logged. -/
def turnDown (s : Synchronizer ω) (r : SelectionRequest) : Synchronizer ω :=
  if Widget.isAlive s.widget then s.note (.rejected ⟨r, Widget.length s.widget⟩) else s

/-- A request that is granted, up to where the widget is told to select. -/
def beginSelection (s : Synchronizer ω) (range : Selection) : Synchronizer ω :=
  { s with
    phase := .applying
    widget := Widget.scrollIntoView (Widget.setSelection s.widget range) range s.options.scroll }

/-- A request that is granted, from where the widget has handed over what came of it. -/
def endSelection (s : Synchronizer ω) (now : Nat) : Synchronizer ω :=
  { s with phase := .idle, pendingFocus := some (now + s.options.focusDelay) }

/-- A request that is not granted is turned down, and the widget is left alone. -/
theorem setSelection_of_none {s : Synchronizer ω} {r : SelectionRequest}
    (h : grant? s.widget r = none) (now : Nat) : (s.setSelection now r).1 = s.turnDown r := by
  unfold grant? at h
  unfold setSelection turnDown
  by_cases ha : Widget.isAlive s.widget = true
  · rw [if_pos ha] at h
    rw [if_pos ha, if_pos ha]
    cases hc : Selection.checked r (Widget.length s.widget) with
    | error e => rw [Selection.eq_of_checked_error hc]
    | ok range =>
      rw [hc] at h
      cases h
  · rw [if_neg ha, if_neg ha]

/-- A request that comes to nothing changes nothing but the log. -/
theorem exists_turnDown_eq (s : Synchronizer ω) (r : SelectionRequest) :
    ∃ log, s.turnDown r = { s with log } := by
  unfold turnDown
  split
  · exact ⟨_, rfl⟩
  · exact ⟨s.log, rfl⟩

/-- A request is granted to a widget that is alive, and if it fits the text. -/
theorem of_grant? {w : ω} {r : SelectionRequest} {range : Selection} (h : grant? w r = some range) :
    Widget.isAlive w = true ∧ Selection.checked r (Widget.length w) = .ok range := by
  unfold grant? at h
  by_cases ha : Widget.isAlive w = true
  · rw [if_pos ha] at h
    refine ⟨ha, ?_⟩
    cases hc : Selection.checked r (Widget.length w) with
    | error e =>
      rw [hc] at h
      cases h
    | ok range' =>
      rw [hc] at h
      rw [Option.some.inj h]
  · rw [if_neg ha] at h
    cases h

/-- A request that is granted is carried out in three steps: what came before is told, the selection
is made, and the events that come of it are taken. -/
theorem setSelection_of_some {s : Synchronizer ω} {r : SelectionRequest} {range : Selection}
    (h : grant? s.widget r = some range) (now : Nat) :
    s.setSelection now r =
      (((s.processEvents.beginSelection range).processEvents).endSelection now, .ok ()) := by
  obtain ⟨ha, hc⟩ := of_grant? h
  simp only [setSelection, ha, hc, if_true]
  rfl

/-- **What a granted request does.**  The events so far are told, then the widget is made to
select, and of what it hands over the first change of the selection is not told. -/
theorem setSelection_of_granted {s : Synchronizer ω} (hidle : s.phase = .idle)
    {r : SelectionRequest} {range : Selection} (h : grant? s.widget r = some range) (now : Nat) :
    (s.setSelection now r).1 =
      let before := Widget.drain s.widget
      let after := handOver before.2 range s.options.scroll
      { s with
        widget := after.2
        heard := s.heard ++ before.1.map Event.notice ++
          (after.1.eraseP Event.isSelection).map Event.notice
        log := s.log ++ (after.1.findSome? Event.suppressed?).toList
        pendingFocus := some (now + s.options.focusDelay) } := by
  rw [setSelection_of_some h, processEvents_of_idle hidle, processEvents_of_applying rfl]
  simp only [endSelection, beginSelection, handOver, hidle]

/-! ### The other operations -/

/-- A text that is there already is left alone, and so is a widget that is gone. -/
theorem setContent_of_same {s : Synchronizer ω} {text : List Char}
    (h : (Widget.isAlive s.widget && Widget.text s.widget != text) = false) :
    s.setContent text = s := by
  unfold setContent
  rw [h]
  rfl

/-- Another text takes the place of the one there, and the host hears of it. -/
theorem setContent_of_other {s : Synchronizer ω} {text : List Char} (hidle : s.phase = .idle)
    (h : (Widget.isAlive s.widget && Widget.text s.widget != text) = true) :
    s.setContent text =
      { s with
        widget := (Widget.drain (Widget.replaceAll s.widget text)).2
        heard := s.heard ++
          (Widget.drain (Widget.replaceAll s.widget text)).1.map Event.notice } := by
  have hp : ({ s with widget := Widget.replaceAll s.widget text } : Synchronizer ω).phase = .idle :=
    hidle
  unfold setContent
  rw [h, if_pos rfl, processEvents_of_idle hp]

/-- Putting in a text does not touch the request that was heard last. -/
theorem lastRequest_setContent (s : Synchronizer ω) (text : List Char) :
    (s.setContent text).lastRequest = s.lastRequest := by
  unfold setContent
  split
  · exact lastRequest_foldl_dispatch _ _
  · rfl

/-- Nor does keeping the user from editing. -/
theorem lastRequest_setDisabled (s : Synchronizer ω) (disabled : Bool) :
    (s.setDisabled disabled).lastRequest = s.lastRequest := by
  unfold setDisabled
  split <;> rfl

/-- Putting in a text is no selection of the host. -/
theorem phase_setContent {s : Synchronizer ω} (hidle : s.phase = .idle) (text : List Char) :
    (s.setContent text).phase = .idle := by
  cases h : Widget.isAlive s.widget && Widget.text s.widget != text with
  | false => rw [setContent_of_same h, hidle]
  | true => rw [setContent_of_other hidle h]; exact hidle

/-- Nor is keeping the user from editing. -/
theorem phase_setDisabled (s : Synchronizer ω) (disabled : Bool) :
    (s.setDisabled disabled).phase = s.phase := by
  unfold setDisabled
  split <;> rfl

/-- What a host gets done before its request for a selection is looked at. -/
def settle (s : Synchronizer ω) (w : Wishes) : Synchronizer ω :=
  (s.setContent w.text).setDisabled w.disabled

/-- The host is settled and its request remembered, whether it is taken up or not. -/
def heed (s : Synchronizer ω) (w : Wishes) : Synchronizer ω :=
  { s.settle w with lastRequest := w.selection }

/-- The request among the wishes, if it differs from the one before. -/
def request? (s : Synchronizer ω) (w : Wishes) : Option SelectionRequest :=
  if w.selection = s.lastRequest then none else w.selection

/-- Settling the text and the lock does not touch the request that was heard last. -/
theorem lastRequest_settle (s : Synchronizer ω) (w : Wishes) :
    (s.settle w).lastRequest = s.lastRequest := by
  rw [settle, lastRequest_setDisabled, lastRequest_setContent]

/-- The wishes up to the request make no selection. -/
theorem phase_heed {s : Synchronizer ω} (hidle : s.phase = .idle) (w : Wishes) :
    (s.heed w).phase = .idle := by
  change (s.settle w).phase = .idle
  rw [settle, phase_setDisabled, phase_setContent hidle]

/-- Where there is no new request, the wishes come to those up to it. -/
theorem reconcile_of_none {s : Synchronizer ω} {w : Wishes} (h : s.request? w = none)
    (now : Nat) : s.reconcile now w = s.heed w := by
  by_cases hl : w.selection = s.lastRequest
  · -- The request that is remembered is the one that was.
    have hsettle : w.selection = (s.settle w).lastRequest := by rw [hl, lastRequest_settle]
    rw [heed, hsettle]
    exact if_pos hsettle
  · have hsettle : w.selection ≠ (s.settle w).lastRequest := by rwa [lastRequest_settle]
    have hnone : w.selection = none := (if_neg hl).symm.trans h
    refine (if_neg hsettle).trans ?_
    rw [heed, hnone]
    rfl

/-- A new request is taken up once the other wishes are fulfilled, so that it is held against the
new text. -/
theorem reconcile_of_some {s : Synchronizer ω} {w : Wishes} {r : SelectionRequest}
    (h : s.request? w = some r) (now : Nat) :
    s.reconcile now w = ((s.heed w).setSelection now r).1 := by
  have hl : w.selection ≠ s.lastRequest := by
    intro hl
    rw [request?, if_pos hl] at h
    cases h
  have hsettle : w.selection ≠ (s.settle w).lastRequest := by rwa [lastRequest_settle]
  have hsome : w.selection = some r := (if_neg hl).symm.trans h
  refine (if_neg hsettle).trans ?_
  rw [heed, hsome]
  rfl

/-- As a command, a request does what it does by itself; only the answer is wrapped up. -/
@[simp] theorem perform_setSelection (s : Synchronizer ω) (now : Nat) (r : SelectionRequest) :
    (s.perform (.setSelection now r)).1 = (s.setSelection now r).1 := by
  cases h : s.setSelection now r with
  | mk t answer => cases answer <;> simp only [perform, h]

/-- Nothing happens as long as no focus is due. -/
theorem pollDeferred_of_early {s : Synchronizer ω} {now : Nat}
    (h : ∀ deadline ∈ s.pendingFocus, now < deadline) : s.pollDeferred now = (s, false) := by
  unfold pollDeferred
  cases hp : s.pendingFocus with
  | none => rfl
  | some deadline => exact if_neg (Nat.not_le.2 (h deadline hp))

/-- A focus that is due is given to a widget that lives, and is forgotten. -/
theorem pollDeferred_of_due {s : Synchronizer ω} {now deadline : Nat}
    (hp : s.pendingFocus = some deadline) (hdue : deadline ≤ now) :
    s.pollDeferred now =
      if Widget.isAlive s.widget then
        ({ s with
            widget := Widget.focus s.widget
            pendingFocus := none
            log := s.log ++ [.focused] }, true)
      else ({ s with pendingFocus := none }, false) := by
  unfold pollDeferred
  rw [hp]
  exact if_pos hdue

/-- Looking whether a focus is due gives it to the widget at most, and changes nothing else but what
is due and the log. -/
theorem exists_pollDeferred_eq (s : Synchronizer ω) (now : Nat) :
    ∃ widget pendingFocus log,
      (s.pollDeferred now).1 = { s with widget, pendingFocus, log } ∧
        (widget = s.widget ∨ widget = Widget.focus s.widget) := by
  rcases early_or_due s now with h | ⟨deadline, hp, hdue⟩
  · rw [pollDeferred_of_early h]
    exact ⟨s.widget, s.pendingFocus, s.log, rfl, .inl rfl⟩
  · rw [pollDeferred_of_due hp hdue]
    split
    · exact ⟨_, none, _, rfl, .inr rfl⟩
    · exact ⟨s.widget, none, s.log, rfl, .inl rfl⟩

/-- Tearing down forgets the focus that was to follow, and does it to the widget if that is
alive. -/
theorem destroy_eq (s : Synchronizer ω) :
    s.destroy =
      { s with
        widget := if Widget.isAlive s.widget then Widget.destroy s.widget else s.widget
        phase := .idle
        pendingFocus := none } := by
  unfold destroy
  cases h : Widget.isAlive s.widget with
  | false => exact if_neg (by simp [h])
  | true => exact if_pos h

/-! ### The selections made for the host -/

/-- The selection that a command makes for the host, if it makes one. -/
def granted (s : Synchronizer ω) : Command → Option Selection
  | .setSelection _ r => grant? s.widget r
  | .reconcile _ w => (s.request? w).bind (grant? (s.heed w).widget)
  | _ => none

/-- The wishes of a host are granted a selection if their request is new and fits the text that they
put in. -/
theorem granted_reconcile (s : Synchronizer ω) (now : Nat) (w : Wishes) :
    s.granted (.reconcile now w) = (s.request? w).bind (grant? (s.heed w).widget) := rfl

/-- The selection that is made for the host in a turn. -/
def grantedIn (s : Synchronizer ω) : Turn α → Option Selection
  | .command c => s.granted c
  | .widget _ => none

/-- The selections that are made for the host in a session, in order. -/
def grants (act : ω → α → ω) (s : Synchronizer ω) : List (Turn α) → List Selection
  | [] => []
  | t :: turns => (s.grantedIn t).toList ++ grants act (s.takeTurn act t) turns

/-! ### The phase between operations -/

/-- A selection that is made for the host is over when the next command comes. -/
theorem phase_setSelection {s : Synchronizer ω} (hidle : s.phase = .idle) (now : Nat)
    (r : SelectionRequest) : (s.setSelection now r).1.phase = .idle := by
  cases h : grant? s.widget r with
  | none =>
    rw [setSelection_of_none h, turnDown]
    split <;> exact hidle
  | some range =>
    rw [setSelection_of_granted hidle h]
    exact hidle

/-- So is one that is among the wishes of a host. -/
theorem phase_reconcile {s : Synchronizer ω} (hidle : s.phase = .idle) (now : Nat) (w : Wishes) :
    (s.reconcile now w).phase = .idle := by
  cases h : s.request? w with
  | none =>
    rw [reconcile_of_none h]
    exact phase_heed hidle w
  | some r =>
    rw [reconcile_of_some h]
    exact phase_setSelection (phase_heed hidle w) now r

/-- A look at the clock is no selection. -/
theorem phase_pollDeferred (s : Synchronizer ω) (now : Nat) :
    (s.pollDeferred now).1.phase = s.phase := by
  rcases early_or_due s now with h | ⟨deadline, hp, hdue⟩
  · rw [pollDeferred_of_early h]
  · rw [pollDeferred_of_due hp hdue]
    split <;> rfl

/-- Every operation leaves the phase idle. -/
theorem phase_perform {s : Synchronizer ω} (hidle : s.phase = .idle) (c : Command) :
    (s.perform c).1.phase = .idle := by
  cases c with
  | processEvents =>
    change s.processEvents.phase = .idle
    rw [processEvents_of_idle hidle]
    exact hidle
  | setContent text => exact phase_setContent hidle text
  | setSelection now r =>
    rw [perform_setSelection]
    exact phase_setSelection hidle now r
  | setDisabled disabled => exact (phase_setDisabled s disabled).trans hidle
  | reconcile now w => exact phase_reconcile hidle now w
  | pollDeferred now => exact (phase_pollDeferred s now).trans hidle
  | destroy =>
    change s.destroy.phase = .idle
    rw [destroy_eq]

/-- Between two turns no selection is being made. -/
theorem phase_takeTurn {act : ω → α → ω} {s : Synchronizer ω} (hidle : s.phase = .idle)
    (t : Turn α) : (s.takeTurn act t).phase = .idle := by
  cases t with
  | command c => exact phase_perform hidle c
  | widget a => exact hidle

/-- **The phase is idle after every session.** -/
theorem phase_run {act : ω → α → ω} {s : Synchronizer ω} (hidle : s.phase = .idle)
    (turns : List (Turn α)) : (s.run act turns).phase = .idle := by
  induction turns generalizing s with
  | nil => exact hidle
  | cons t turns ih => exact ih (phase_takeTurn hidle t)

end Synchronizer
end TuneEditor
