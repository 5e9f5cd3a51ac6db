/-
# What a host wishes is done, and done once

A host tells all its wishes at once, and again whenever it feels like it.  The text
and whether the user may edit are brought about each time.  The request for a
selection is looked at only if it is another one than the last time wishes were
told (`lastWished`), whatever became of that one and whatever happened since.

| the request is | what is selected | the focus | the log |
|---|---|---|---|
| none, or the same as before | what was, as far as the text reaches | as it was | nothing |
| another one that fits the new text | what was asked for | is to follow | what setting it leaves |
| another one that does not fit | what was, as far as the text reaches | as it was | the refusal |

Wishes that were told just before change nothing (`reconcile_of_done`).
`reconcile_session` says both of every state that a session can come to.
-/

import TuneEditor.Proofs.Document
import TuneEditor.Proofs.Synchronizer.Requests

namespace TuneEditor
namespace Synchronizer

/-! ### The request that is remembered -/

section

variable {ω α : Type}

/-- The wishes that are told in a turn. -/
def Turn.wishes? : Turn α → Option Wishes
  | .command (.reconcile _ w) => some w
  | _ => none

/-- The request among the wishes that were told last in a session; none if there were no wishes. -/
def lastWished (turns : List (Turn α)) : Option SelectionRequest :=
  (turns.filterMap Turn.wishes?).getLast?.elim none Wishes.selection

variable [Widget ω] {s : Synchronizer ω}

/-- A request by itself is not remembered: only those among wishes are. -/
theorem lastRequest_setSelection (s : Synchronizer ω) (now : Nat) (r : SelectionRequest) :
    (s.setSelection now r).1.lastRequest = s.lastRequest := by
  cases h : grant? s.widget r with
  | none =>
    obtain ⟨log, hturned⟩ := s.exists_turnDown_eq r
    rw [setSelection_of_none h, hturned]
  | some range =>
    rw [setSelection_of_some h]
    have hbefore : s.processEvents.lastRequest = s.lastRequest := lastRequest_foldl_dispatch _ _
    have hafter : (s.processEvents.beginSelection range).processEvents.lastRequest =
        s.processEvents.lastRequest := lastRequest_foldl_dispatch _ _
    exact hafter.trans hbefore

/-- The request among the wishes is remembered, granted or not. -/
theorem lastRequest_reconcile (s : Synchronizer ω) (now : Nat) (w : Wishes) :
    (s.reconcile now w).lastRequest = w.selection := by
  cases h : s.request? w with
  | none =>
    rw [reconcile_of_none h]
    rfl
  | some r =>
    rw [reconcile_of_some h, lastRequest_setSelection]
    rfl

/-- A look at the clock forgets no request. -/
theorem lastRequest_pollDeferred (s : Synchronizer ω) (now : Nat) :
    (s.pollDeferred now).1.lastRequest = s.lastRequest := by
  obtain ⟨widget, pendingFocus, log, hpoll, -⟩ := s.exists_pollDeferred_eq now
  rw [hpoll]

/-- No turn but the telling of wishes changes which request is remembered. -/
theorem lastRequest_takeTurn (act : ω → α → ω) (s : Synchronizer ω) (t : Turn α) :
    (s.takeTurn act t).lastRequest = t.wishes?.elim s.lastRequest Wishes.selection := by
  cases t with
  | widget a => rfl
  | command c =>
    cases c with
    | processEvents => exact lastRequest_foldl_dispatch _ _
    | setContent text => exact lastRequest_setContent s text
    | setSelection now r =>
      change (s.perform (.setSelection now r)).1.lastRequest = _
      rw [perform_setSelection]
      exact lastRequest_setSelection s now r
    | setDisabled disabled => exact lastRequest_setDisabled s disabled
    | reconcile now w => exact lastRequest_reconcile s now w
    | pollDeferred now => exact lastRequest_pollDeferred s now
    | destroy =>
      change s.destroy.lastRequest = _
      rw [destroy_eq]
      rfl

/-- The request that is remembered after a session is that of the last wishes in it. -/
theorem lastRequest_run (act : ω → α → ω) (s : Synchronizer ω) (turns : List (Turn α)) :
    (s.run act turns).lastRequest =
      (turns.filterMap Turn.wishes?).getLast?.elim s.lastRequest Wishes.selection := by
  induction turns generalizing s with
  | nil => rfl
  | cons t turns ih =>
    change ((s.takeTurn act t).run act turns).lastRequest = _
    rw [ih, lastRequest_takeTurn]
    cases ht : t.wishes? with
    | none =>
      rw [List.filterMap_cons_none ht]
      rfl
    | some w =>
      rw [List.filterMap_cons_some ht, List.getLast?_cons]
      cases (turns.filterMap Turn.wishes?).getLast? with
      | none => rfl
      | some w' => rfl

end

/-! ### What is done without the request -/

variable {s : Synchronizer View}

/-- The text of a view that is alive becomes that of the host, and the selection stays as far as the
text reaches.  Of the rest nothing changes but the viewport, the count of the changes and what there
is to tell. -/
theorem exists_setContent_eq (hidle : s.phase = .idle) (hsound : s.widget.Sound)
    (halive : s.widget.alive = true) (text : List Char) :
    ∃ topLine modified revision outbox heard,
      s.setContent text = { s with
        widget := { s.widget with
          document := .ofChars text
          anchor := min s.widget.anchor text.length
          head := min s.widget.head text.length
          topLine, modified, revision, outbox }
        heard } := by
  cases h : Widget.isAlive s.widget && Widget.text s.widget != text with
  | false =>
    -- The text is there already, and the selection lies in it.
    have htext : s.widget.text = text := by
      change (s.widget.alive && s.widget.text != text) = false at h
      simpa [halive] using h
    have hdocument : Document.ofChars text = s.widget.document := by
      rw [← htext]
      exact s.widget.document.ofChars_chars
    have hsize : s.widget.document.size = text.length := by
      rw [← hdocument]
      rfl
    have hanchor : min s.widget.anchor text.length = s.widget.anchor :=
      Nat.min_eq_left (hsize ▸ hsound.anchor_le)
    have hhead : min s.widget.head text.length = s.widget.head :=
      Nat.min_eq_left (hsize ▸ hsound.head_le)
    rw [setContent_of_same h, hdocument, hanchor, hhead]
    exact ⟨_, _, _, _, _, rfl⟩
  | true =>
    have hreplace : Widget.replaceAll s.widget text =
        { s.widget with
          document := .ofChars text
          anchor := min s.widget.anchor text.length
          head := min s.widget.head text.length
          topLine := (s.widget.replaceAll text).topLine
          modified := true
          revision := s.widget.revision + 1
          outbox := s.widget.outbox ++ [.content text] } := by
      change s.widget.replaceAll text = _
      unfold View.replaceAll
      rw [if_pos halive]
      rfl
    rw [setContent_of_other hidle h, hreplace]
    exact ⟨_, _, _, _, _, rfl⟩

/-- What a host finds once its wishes but for the request are done. -/
theorem heed_spec (hidle : s.phase = .idle) (hsound : s.widget.Sound)
    (halive : s.widget.alive = true) (w : Wishes) :
    (s.heed w).widget.text = w.text ∧ (s.heed w).widget.editable = !w.disabled ∧
      (s.heed w).widget.selection = s.widget.selection.clamped w.text.length ∧
      (s.heed w).widget.alive = true ∧ (s.heed w).options = s.options ∧
      (s.heed w).pendingFocus = s.pendingFocus ∧ (s.heed w).log = s.log := by
  obtain ⟨topLine, modified, revision, outbox, heard, h⟩ :=
    exists_setContent_eq hidle hsound halive w.text
  have halive' : (s.setContent w.text).widget.alive = true := by
    rw [h]
    exact halive
  have hsettle : s.settle w =
      { s.setContent w.text with
        widget := { (s.setContent w.text).widget with editable := !w.disabled } } :=
    if_pos halive'
  unfold heed
  rw [hsettle, h]
  refine ⟨rfl, rfl, ?_, halive, rfl, rfl, rfl⟩
  exact (Selection.clamped_between ..).symm

/-! ### The request -/

/-- A request leaves the text and the user's leave to edit alone. -/
theorem setSelection_keeps (hidle : s.phase = .idle) (hsound : s.widget.Sound)
    (halive : s.widget.alive = true) (now : Nat) (r : SelectionRequest) :
    (s.setSelection now r).1.widget.text = s.widget.text ∧
      (s.setSelection now r).1.widget.editable = s.widget.editable ∧
      (s.setSelection now r).1.widget.alive = true := by
  by_cases hfits : r.Fits s.widget.text.length
  · obtain ⟨t, hset, ⟨anchor, head, topLine, log, ht⟩, -⟩ :=
      setSelection_of_fits hidle hsound halive hfits now
    rw [hset, ht]
    exact ⟨rfl, rfl, halive⟩
  · have hlength : Widget.length s.widget = s.widget.text.length := s.widget.document.size_eq
    rw [← hlength] at hfits
    rw [setSelection_of_not_fits halive hfits now]
    exact ⟨rfl, rfl, halive⟩

/-- A request that is taken up and fits the text wished for is granted. -/
theorem heed_setSelection_of_fits (hidle : s.phase = .idle) (hsound : s.widget.Sound)
    (halive : s.widget.alive = true) {w : Wishes} {r : SelectionRequest}
    (h : r.Fits w.text.length) (now : Nat) :
    let t := ((s.heed w).setSelection now r).1
    r = ⟨t.widget.selection.start, t.widget.selection.stop⟩ ∧
      t.pendingFocus = some (now + s.options.focusDelay) := by
  obtain ⟨htext, -, -, halive', hoptions, -, -⟩ := heed_spec hidle hsound halive w
  rw [← htext] at h
  obtain ⟨t, hset, ⟨anchor, head, topLine, log, ht⟩, hmade, -⟩ :=
    setSelection_of_fits (phase_heed hidle w) ((reaches_heed hidle w).sound hsound) halive' h now
  intro t'
  have ht' : t' = t := congrArg Prod.fst hset
  rw [ht']
  refine ⟨hmade, ?_⟩
  rw [ht, ← hoptions]

/-- A request that is taken up and does not fit the text wished for is refused. -/
theorem heed_setSelection_of_not_fits (hidle : s.phase = .idle) (hsound : s.widget.Sound)
    (halive : s.widget.alive = true) {w : Wishes} {r : SelectionRequest}
    (h : ¬ r.Fits w.text.length) (now : Nat) :
    ((s.heed w).setSelection now r).1 = (s.heed w).note (.rejected ⟨r, w.text.length⟩) := by
  obtain ⟨htext, -, -, halive', -, -, -⟩ := heed_spec hidle hsound halive w
  have hlength : Widget.length (s.heed w).widget = w.text.length :=
    (s.heed w).widget.document.size_eq.trans (congrArg List.length htext)
  rw [← hlength] at h ⊢
  rw [setSelection_of_not_fits halive' h now]

/-- The text and the leave to edit are as wished for, whatever becomes of the request. -/
theorem reconcile_fulfils (hidle : s.phase = .idle) (hsound : s.widget.Sound)
    (halive : s.widget.alive = true) (now : Nat) (w : Wishes) :
    (s.reconcile now w).widget.text = w.text ∧
      (s.reconcile now w).widget.editable = !w.disabled ∧
      (s.reconcile now w).widget.alive = true := by
  obtain ⟨htext, heditable, -, halive', -, -, -⟩ := heed_spec hidle hsound halive w
  cases h : s.request? w with
  | none =>
    rw [reconcile_of_none h]
    exact ⟨htext, heditable, halive'⟩
  | some r =>
    obtain ⟨htext', heditable', halive''⟩ :=
      setSelection_keeps (phase_heed hidle w) ((reaches_heed hidle w).sound hsound) halive' now r
    rw [reconcile_of_some h]
    exact ⟨htext'.trans htext, heditable'.trans heditable, halive''⟩

/-- **Wishes that are fulfilled change nothing when they are told again.** -/
theorem reconcile_of_done (halive : s.widget.alive = true) {w : Wishes}
    (htext : s.widget.text = w.text) (heditable : s.widget.editable = !w.disabled)
    (hrequest : s.lastRequest = w.selection) (now : Nat) : s.reconcile now w = s := by
  have hnone : s.request? w = none := if_pos hrequest.symm
  have hcontent : s.setContent w.text = s := by
    refine setContent_of_same ?_
    change (s.widget.alive && s.widget.text != w.text) = false
    simp [htext]
  have hdisabled : s.setDisabled w.disabled = s := by
    unfold setDisabled
    refine (if_pos halive).trans ?_
    change { s with widget := { s.widget with editable := !w.disabled } } = s
    rw [← heditable]
  rw [reconcile_of_none hnone, heed, settle, hcontent, hdisabled, ← hrequest]

/-- **What a host wishes is done, and done once.**  In a view that is alive the text becomes the one
wished for, and the user may edit unless the host forbids it.  A request is taken up if it is
another one than that of the wishes told last.  If it fits the text, it is granted and a focus is to
follow.  If it does not, or if it is not taken up, then the selection stays as far as the text
reaches and the focus is due when it was; only a request that is taken up and does not fit leaves
a refusal in the log.  The same wishes told again change nothing. -/
theorem reconcile_session (text : List Char) (height : Nat) (o : SyncOptions)
    (turns : List (Turn View.Command)) (now : Nat) (w : Wishes) :
    let s := (ofText text height o).run View.act turns
    let t := s.reconcile now w
    let length := w.text.length
    let asked := if w.selection = lastWished turns then none else w.selection
    s.widget.alive = true →
      t.widget.text = w.text ∧ t.widget.editable = !w.disabled ∧
        t = asked.elim (s.heed w) (fun r => ((s.heed w).setSelection now r).1) ∧
        (∀ r ∈ asked, r.Fits length →
          r = ⟨t.widget.selection.start, t.widget.selection.stop⟩ ∧
            t.pendingFocus = some (now + s.options.focusDelay)) ∧
        ((∀ r ∈ asked, ¬ r.Fits length) →
          t.widget.selection = s.widget.selection.clamped length ∧
            t.pendingFocus = s.pendingFocus ∧
            t.log = s.log ++ (asked.map fun r => .rejected ⟨r, length⟩).toList) ∧
        ∀ now', t.reconcile now' w = t := by
  intro s t length asked halive
  have hidle : s.phase = .idle := phase_run rfl turns
  have hsound : s.widget.Sound := sound_session text height o turns
  have hasked : s.request? w = asked := by
    have hlast : s.lastRequest = lastWished turns := lastRequest_run View.act _ turns
    change (if w.selection = s.lastRequest then none else w.selection) = asked
    rw [hlast]
  obtain ⟨htext, heditable, halive'⟩ := reconcile_fulfils hidle hsound halive now w
  have hagain : ∀ now', t.reconcile now' w = t :=
    reconcile_of_done halive' htext heditable (lastRequest_reconcile s now w)
  obtain ⟨-, -, hselection, -, -, hpending, hlog⟩ := heed_spec hidle hsound halive w
  cases h : asked with
  | none =>
    have ht : t = s.heed w := reconcile_of_none (hasked.trans h) now
    refine ⟨htext, heditable, ht, fun r hr => ?_, fun _ => ?_, hagain⟩
    · cases hr
    · rw [ht]
      exact ⟨hselection, hpending, hlog.trans (List.append_nil _).symm⟩
  | some r =>
    have ht : t = ((s.heed w).setSelection now r).1 := reconcile_of_some (hasked.trans h) now
    refine ⟨htext, heditable, ht, fun r' hr' hfits => ?_, fun hnot => ?_, hagain⟩
    · obtain rfl : r = r' := Option.some.inj hr'
      rw [ht]
      exact heed_setSelection_of_fits hidle hsound halive hfits now
    · have hrefused := heed_setSelection_of_not_fits hidle hsound halive (hnot r rfl) now
      rw [ht, hrefused]
      exact ⟨hselection, hpending, congrArg (· ++ [_]) hlog⟩

/-- The wishes of before were refused their request, the user went on and the host asked for a
selection by itself; now it wishes for a shorter text, the end of it selected, and no editing. -/
theorem reconcile_session_of_refused_before :
    let turns : List (Turn View.Command) :=
      [.command (.reconcile 0 ⟨['a', 'b', 'c'], some ⟨1, 4⟩, false⟩), .widget (.select 3 0),
        .command (.setSelection 5 ⟨1, 2⟩), .widget (.insert ['z'])]
    let w : Wishes := ⟨['x', 'y'], some ⟨1, 2⟩, true⟩
    let s := (ofText ['a', 'b', 'c'] 1 {}).run View.act turns
    let t := s.reconcile 20 w
    s.widget.alive = true ∧ lastWished turns = some ⟨1, 4⟩ ∧
      t.widget.text = ['x', 'y'] ∧ t.widget.editable = false ∧
      t.widget.selection = ⟨1, 2⟩ ∧ t.pendingFocus = some 30 ∧
      ∀ now', t.reconcile now' w = t := by
  intro turns w s t
  have halive : s.widget.alive = true := by decide
  have hlast : lastWished turns = some ⟨1, 4⟩ := by decide
  have hasked : some ⟨1, 2⟩ =
      if w.selection = lastWished turns then none else w.selection := by decide
  have hfits : SelectionRequest.Fits ⟨1, 2⟩ w.text.length := by decide
  obtain ⟨htext, heditable, -, hgranted, -, hagain⟩ :=
    reconcile_session ['a', 'b', 'c'] 1 {} turns 20 w halive
  obtain ⟨hmade, hpending⟩ := hgranted _ hasked.symm hfits
  have hselection : t.widget.selection = ⟨1, 2⟩ := by
    have hstart : (1 : Int) = t.widget.selection.start := congrArg SelectionRequest.start hmade
    have hstop : (2 : Int) = t.widget.selection.stop := congrArg SelectionRequest.stop hmade
    have hstart' : t.widget.selection.start = 1 := by omega
    have hstop' : t.widget.selection.stop = 2 := by omega
    rw [← hstart', ← hstop']
  exact ⟨halive, hlast, htext, heditable, hselection, hpending, hagain⟩

end Synchronizer
end TuneEditor
