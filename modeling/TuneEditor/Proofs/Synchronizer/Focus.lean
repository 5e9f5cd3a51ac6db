/-
# The focus that follows a selection

A selection that is made for the host is to be followed by the focus, a while
later, when the clock is looked at.  Whether a focus is to follow, and when, can
be told from what has happened in a session (`Awaits`):

| what happens | the focus |
|---|---|
| a selection is made for the host | is to follow after the delay, and no other one |
| the clock is looked at too early | is to follow as before |
| the clock is looked at in time | is given if the widget is alive, and is to follow no more |
| the synchronizer is torn down | is to follow no more |
| anything else, the end of the widget included | is to follow as before |

That is one equation for a turn (`leaves_takeTurn`), and the law of a
session is the induction on its last turn (`pendingFocus_run_iff`).

Nothing but a look at the clock calls for the focus (`asks_perform`), and each
look that does so uses up a selection: the calls so far and the one to follow are
never more than the selections made (`count_focus_run_le`).
-/

import Mathlib.Data.List.Induction
import TuneEditor.Proofs.Synchronizer.Recorder
import TuneEditor.View

namespace TuneEditor
namespace Synchronizer

variable {ω α : Type}

/-! ### What is to follow, by what has happened -/

/-- The instant at which a command is given, if that counts. -/
def Command.instant? : Command → Option Nat
  | setSelection now _ => some now
  | reconcile now _ => some now
  | pollDeferred now => some now
  | _ => none

/-- Whether a turn ends the wait for a focus that is due from an instant on. -/
def Turn.endsWait (deadline : Nat) : Turn α → Bool
  | .command (.pollDeferred now) => deadline ≤ now
  | .command .destroy => true
  | _ => false

section

variable [Widget ω]

/-- The instant at which a selection is made for the host in a turn, if one is. -/
def madeAt? (s : Synchronizer ω) : Turn α → Option Nat
  | .command c => (s.granted c).bind fun _ => c.instant?
  | .widget _ => none

/-- The turns of a session, each with the synchronizer as it was before it. -/
def history (act : ω → α → ω) (s : Synchronizer ω) :
    List (Turn α) → List (Synchronizer ω × Turn α)
  | [] => []
  | t :: turns => (s, t) :: history act (s.takeTurn act t) turns

/-- By what has happened in a session, a focus is to follow from an instant on.  The last selection
that was made for the host was made so long before it, and no turn since then ended the wait. -/
def Awaits (act : ω → α → ω) (s : Synchronizer ω) (turns : List (Turn α)) (deadline : Nat) : Prop :=
  ∃ before m after now,
    history act s turns = before ++ m :: after ∧ m.1.madeAt? m.2 = some now ∧
      deadline = now + s.options.focusDelay ∧
        ∀ m' ∈ after, m'.1.madeAt? m'.2 = none ∧ m'.2.endsWait deadline = false

/-- A session can be held in two parts. -/
theorem run_append (act : ω → α → ω) (s : Synchronizer ω) (turns turns' : List (Turn α)) :
    s.run act (turns ++ turns') = (s.run act turns).run act turns' :=
  List.foldl_append

/-- The history of a session in two parts is that of the first, and that of the second from where
the first ends. -/
theorem history_append (act : ω → α → ω) (s : Synchronizer ω) (turns turns' : List (Turn α)) :
    history act s (turns ++ turns') =
      history act s turns ++ history act (s.run act turns) turns' := by
  induction turns generalizing s with
  | nil => rfl
  | cons t turns ih =>
    rw [List.cons_append, history, ih]
    rfl

/-- A member of a list to which one was added is the one added, or it was there before. -/
theorem concat_eq_append_cons_iff {β : Type} {xs before after : List β} {last x : β} :
    xs ++ [last] = before ++ x :: after ↔
      (before = xs ∧ x = last ∧ after = []) ∨
        ∃ after', after = after' ++ [last] ∧ xs = before ++ x :: after' := by
  constructor
  · intro h
    rcases List.eq_nil_or_concat after with rfl | ⟨after', y, rfl⟩
    · obtain ⟨hxs, hlast⟩ := List.append_inj' h rfl
      exact .inl ⟨hxs.symm, (List.singleton_inj.1 hlast).symm, rfl⟩
    · rw [List.concat_eq_append, ← List.cons_append, ← List.append_assoc] at h
      obtain ⟨hxs, hlast⟩ := List.append_inj' h rfl
      obtain rfl := List.singleton_inj.1 hlast
      exact .inr ⟨after', List.concat_eq_append, hxs⟩
  · rintro (⟨rfl, rfl, rfl⟩ | ⟨after', rfl, rfl⟩)
    · rfl
    · rw [List.append_assoc, List.cons_append]

/-- One more turn makes a selection, or leaves what is to follow as it was unless it ends the
wait. -/
theorem awaits_concat_iff (act : ω → α → ω) (s : Synchronizer ω) (turns : List (Turn α))
    (t : Turn α) (deadline : Nat) :
    Awaits act s (turns ++ [t]) deadline ↔
      (∃ now, (s.run act turns).madeAt? t = some now ∧
        deadline = now + s.options.focusDelay) ∨
      ((s.run act turns).madeAt? t = none ∧ t.endsWait deadline = false ∧
        Awaits act s turns deadline) := by
  have hhistory : history act s (turns ++ [t]) = history act s turns ++ [(s.run act turns, t)] :=
    history_append act s turns [t]
  constructor
  · rintro ⟨before, m, after, now, hm, hmade, hdeadline, hafter⟩
    rw [hhistory] at hm
    rcases concat_eq_append_cons_iff.1 hm with ⟨-, rfl, rfl⟩ | ⟨after', rfl, hturns⟩
    · exact .inl ⟨now, hmade, hdeadline⟩
    · rw [List.forall_mem_append, List.forall_mem_singleton] at hafter
      obtain ⟨hafter', hnone, hends⟩ := hafter
      exact .inr ⟨hnone, hends, before, m, after', now, hturns, hmade, hdeadline, hafter'⟩
  · rintro (⟨now, hmade, hdeadline⟩ | ⟨hnone, hends, before, m, after', now, hturns, hmade,
      hdeadline, hafter'⟩)
    · exact ⟨history act s turns, _, [], now, hhistory, hmade, hdeadline, by simp⟩
    · refine ⟨before, m, after' ++ [(s.run act turns, t)], now, ?_, hmade, hdeadline, ?_⟩
      · rw [hhistory]
        exact concat_eq_append_cons_iff.2 (.inr ⟨after', rfl, hturns⟩)
      · rw [List.forall_mem_append, List.forall_mem_singleton]
        exact ⟨hafter', hnone, hends⟩

/-! ### What a turn does to it -/

variable {s : Synchronizer ω}

/-- The options are the same, and a focus is to follow as given. -/
def Leaves (s s' : Synchronizer ω) (pending : Option Nat) : Prop :=
  s'.pendingFocus = pending ∧ s'.options = s.options

/-- Taking the events neither calls for a focus nor puts one off. -/
theorem leaves_processEvents (hidle : s.phase = .idle) :
    Leaves s s.processEvents s.pendingFocus := by
  rw [processEvents_of_idle hidle]
  exact ⟨rfl, rfl⟩

/-- Nor does putting in a text, whether it was there already or not. -/
theorem leaves_setContent (hidle : s.phase = .idle) (text : List Char) :
    Leaves s (s.setContent text) s.pendingFocus := by
  cases h : Widget.isAlive s.widget && Widget.text s.widget != text with
  | false =>
    rw [setContent_of_same h]
    exact ⟨rfl, rfl⟩
  | true =>
    rw [setContent_of_other hidle h]
    exact ⟨rfl, rfl⟩

/-- Nor does keeping the user from editing. -/
theorem leaves_setDisabled (s : Synchronizer ω) (disabled : Bool) :
    Leaves s (s.setDisabled disabled) s.pendingFocus := by
  unfold setDisabled
  split
  · exact ⟨rfl, rfl⟩
  · exact ⟨rfl, rfl⟩

/-- So the wishes of a host, up to the request, leave a focus to follow as it was. -/
theorem leaves_heed (hidle : s.phase = .idle) (w : Wishes) :
    Leaves s (s.heed w) s.pendingFocus := by
  obtain ⟨hpending, hoptions⟩ := leaves_setContent hidle w.text
  obtain ⟨hpending', hoptions'⟩ := leaves_setDisabled (s.setContent w.text) w.disabled
  exact ⟨hpending'.trans hpending, hoptions'.trans hoptions⟩

/-- A request that is granted makes the focus follow it, and any other changes nothing of that. -/
theorem leaves_setSelection (hidle : s.phase = .idle) (now : Nat) (r : SelectionRequest) :
    Leaves s (s.setSelection now r).1
      ((grant? s.widget r).elim s.pendingFocus fun _ => some (now + s.options.focusDelay)) := by
  cases h : grant? s.widget r with
  | none =>
    obtain ⟨log, hturned⟩ := s.exists_turnDown_eq r
    rw [setSelection_of_none h, hturned]
    exact ⟨rfl, rfl⟩
  | some range =>
    rw [setSelection_of_granted hidle h]
    exact ⟨rfl, rfl⟩

/-- All its wishes make a focus follow just if the request is taken up and granted. -/
theorem leaves_reconcile (hidle : s.phase = .idle) (now : Nat) (w : Wishes) :
    Leaves s (s.reconcile now w)
      ((s.granted (.reconcile now w)).elim s.pendingFocus fun _ =>
        some (now + s.options.focusDelay)) := by
  obtain ⟨hpending, hoptions⟩ := leaves_heed hidle w
  rw [granted_reconcile]
  cases h : s.request? w with
  | none =>
    rw [reconcile_of_none h]
    exact ⟨hpending, hoptions⟩
  | some r =>
    obtain ⟨hpending', hoptions'⟩ := leaves_setSelection (phase_heed hidle w) now r
    rw [hpending, hoptions] at hpending'
    rw [reconcile_of_some h]
    exact ⟨hpending', hoptions'.trans hoptions⟩

/-- A focus that is due follows no more once the clock was looked at. -/
theorem leaves_pollDeferred (s : Synchronizer ω) (now : Nat) :
    Leaves s (s.pollDeferred now).1
      (s.pendingFocus.filter fun deadline => !decide (deadline ≤ now)) := by
  rcases early_or_due s now with h | ⟨deadline, hp, hdue⟩
  · rw [pollDeferred_of_early h]
    refine ⟨?_, rfl⟩
    cases hp : s.pendingFocus with
    | none => rfl
    | some deadline =>
      have hlt : now < deadline := h deadline hp
      simp [Option.filter_some, hlt]
  · rw [pollDeferred_of_due hp hdue, hp]
    split
    · exact ⟨by simp [Option.filter_some, hdue], rfl⟩
    · exact ⟨by simp [Option.filter_some, hdue], rfl⟩

/-- No focus follows a synchronizer that is torn down. -/
theorem leaves_destroy (s : Synchronizer ω) : Leaves s s.destroy none := by
  rw [destroy_eq]
  exact ⟨rfl, rfl⟩

/-- What is to follow after a turn. -/
def pendingAfter (s : Synchronizer ω) (t : Turn α) : Option Nat :=
  (s.madeAt? t).elim (s.pendingFocus.filter fun deadline => !t.endsWait deadline) fun now =>
    some (now + s.options.focusDelay)

/-- A turn that makes no selection and does not end the wait leaves a focus to follow. -/
theorem pendingAfter_of_other {t : Turn α} (hmade : s.madeAt? t = none)
    (hends : ∀ deadline, t.endsWait deadline = false) : s.pendingAfter t = s.pendingFocus := by
  unfold pendingAfter
  rw [hmade]
  cases hp : s.pendingFocus with
  | none => rfl
  | some deadline => simp [Option.filter_some, hends]

/-- After a turn a focus is to follow from an instant on just if a selection was made the delay
before it, or if it was to follow already and the turn did not end the wait. -/
theorem pendingAfter_eq_some_iff {t : Turn α} {deadline : Nat} :
    s.pendingAfter t = some deadline ↔
      (∃ now, s.madeAt? t = some now ∧ deadline = now + s.options.focusDelay) ∨
      (s.madeAt? t = none ∧ t.endsWait deadline = false ∧ s.pendingFocus = some deadline) := by
  unfold pendingAfter
  cases s.madeAt? t with
  | none =>
    rw [Option.elim_none, Option.filter_eq_some_iff]
    simp [and_comm]
  | some now =>
    rw [Option.elim_some]
    constructor
    · intro h
      exact .inl ⟨now, rfl, (Option.some.inj h).symm⟩
    · rintro (⟨now', hnow, rfl⟩ | ⟨h, -⟩)
      · rw [Option.some.inj hnow]
      · cases h

/-- A command that makes a selection if it is granted one. -/
theorem pendingAfter_of_granted {c : Command} {now : Nat} (hnow : c.instant? = some now)
    (hends : ∀ deadline, (Turn.command c : Turn α).endsWait deadline = false) :
    s.pendingAfter (.command c : Turn α) =
      (s.granted c).elim s.pendingFocus fun _ => some (now + s.options.focusDelay) := by
  cases h : s.granted c with
  | none => exact pendingAfter_of_other (by simp [madeAt?, h]) hends
  | some range => simp [pendingAfter, madeAt?, h, hnow]

/-- **What a turn does to the focus that is to follow.** -/
theorem leaves_takeTurn (act : ω → α → ω) (hidle : s.phase = .idle) (t : Turn α) :
    Leaves s (s.takeTurn act t) (s.pendingAfter t) := by
  cases t with
  | widget a =>
    rw [pendingAfter_of_other rfl fun _ => rfl]
    exact ⟨rfl, rfl⟩
  | command c =>
    cases c with
    | processEvents =>
      rw [pendingAfter_of_other rfl fun _ => rfl]
      exact leaves_processEvents hidle
    | setContent text =>
      rw [pendingAfter_of_other rfl fun _ => rfl]
      exact leaves_setContent hidle text
    | setSelection now r =>
      rw [pendingAfter_of_granted rfl fun _ => rfl]
      change Leaves s (s.perform (.setSelection now r)).1 _
      rw [perform_setSelection]
      exact leaves_setSelection hidle now r
    | setDisabled disabled =>
      rw [pendingAfter_of_other rfl fun _ => rfl]
      exact leaves_setDisabled s disabled
    | reconcile now w =>
      rw [pendingAfter_of_granted rfl fun _ => rfl]
      exact leaves_reconcile hidle now w
    | pollDeferred now => exact leaves_pollDeferred s now
    | destroy =>
      have hnone : s.pendingAfter (.command .destroy : Turn α) = none := by
        cases hp : s.pendingFocus <;> simp [pendingAfter, madeAt?, granted, Turn.endsWait, hp]
      rw [hnone]
      exact leaves_destroy s

/-- No session changes the delay: the options stay those it began with. -/
theorem options_run (act : ω → α → ω) (hidle : s.phase = .idle) (turns : List (Turn α)) :
    (s.run act turns).options = s.options := by
  induction turns generalizing s with
  | nil => rfl
  | cons t turns ih =>
    exact (ih (phase_takeTurn hidle t)).trans (leaves_takeTurn act hidle t).2

/-- **A focus is to follow just if what has happened says so.** -/
theorem pendingFocus_run_iff (act : ω → α → ω) (hidle : s.phase = .idle)
    (hnone : s.pendingFocus = none) (turns : List (Turn α)) (deadline : Nat) :
    (s.run act turns).pendingFocus = some deadline ↔ Awaits act s turns deadline := by
  induction turns using List.reverseRecOn with
  | nil =>
    refine iff_of_false (by simp [run, hnone]) ?_
    rintro ⟨before, m, after, now, hm, -⟩
    simp [history] at hm
  | append_singleton turns t ih =>
    obtain ⟨hpending, -⟩ := leaves_takeTurn act (phase_run hidle turns) t
    have hrun : s.run act (turns ++ [t]) = (s.run act turns).takeTurn act t := run_append ..
    rw [awaits_concat_iff, hrun, hpending, ← ih, pendingAfter_eq_some_iff,
      options_run act hidle turns]

/-- A second selection puts the focus off, and the clock was looked at too early for it. -/
example :
    let s : Synchronizer View :=
      run (fun v (_ : Unit) => v) { widget := .new ['a', 'b'] 1 }
        [.command (.setSelection 0 ⟨0, 1⟩), .command (.setSelection 7 ⟨1, 2⟩),
          .command (.pollDeferred 12)]
    s.pendingFocus = some 17 ∧ (s.pollDeferred 17).2 = true := by
  decide

end

/-! ### The calls for the focus -/

/-- The widget got some more calls, so many of them for the focus. -/
def Asks (s s' : Synchronizer (Recorder ω)) (n : Nat) : Prop :=
  ∃ calls : List Call, s'.widget.calls = s.widget.calls ++ calls ∧ calls.count .focus = n

namespace Asks

/-- Where nothing is done nothing is asked for. -/
theorem refl (s : Synchronizer (Recorder ω)) : Asks s s 0 :=
  ⟨[], (List.append_nil _).symm, rfl⟩

/-- The calls of two steps add up. -/
theorem trans {s t u : Synchronizer (Recorder ω)} {m n : Nat} (h : Asks s t m) (h' : Asks t u n) :
    Asks s u (m + n) := by
  obtain ⟨calls, hcalls, rfl⟩ := h
  obtain ⟨calls', hcalls', rfl⟩ := h'
  exact ⟨calls ++ calls', by rw [hcalls', hcalls, List.append_assoc], List.count_append⟩

/-- The calls for the focus are those from before and those of the step. -/
theorem count_eq {s s' : Synchronizer (Recorder ω)} {n : Nat} (h : Asks s s' n) :
    s'.widget.calls.count .focus = s.widget.calls.count .focus + n := by
  obtain ⟨calls, hcalls, rfl⟩ := h
  rw [hcalls, List.count_append]

end Asks

variable [Widget ω] {s : Synchronizer (Recorder ω)}

/-- Taking the events is a call, but none for the focus. -/
theorem asks_processEvents (hidle : s.phase = .idle) : Asks s s.processEvents 0 := by
  rw [processEvents_of_idle hidle]
  exact ⟨[.drain _], rfl, rfl⟩

/-- A text of the host is put in and the events are taken, if it is not there already. -/
theorem asks_setContent (hidle : s.phase = .idle) (text : List Char) :
    Asks s (s.setContent text) 0 := by
  cases h : Widget.isAlive s.widget && Widget.text s.widget != text with
  | false =>
    rw [setContent_of_same h]
    exact .refl s
  | true =>
    rw [setContent_of_other hidle h]
    exact ⟨[.replaceAll text, .drain _], List.append_assoc .., rfl⟩

/-- Keeping the user from editing is one call, and none if the widget is gone. -/
theorem asks_setDisabled (disabled : Bool) : Asks s (s.setDisabled disabled) 0 := by
  unfold setDisabled
  split
  · exact ⟨[.setEditable (!disabled)], rfl, rfl⟩
  · exact .refl s

/-- So the wishes of a host, up to the request, ask for no focus. -/
theorem asks_heed (hidle : s.phase = .idle) (w : Wishes) : Asks s (s.heed w) 0 :=
  (asks_setContent hidle w.text).trans (asks_setDisabled w.disabled)

/-- A selection that is made for the host only lets the focus follow: the calls are those that make
the selection, with the events taken before and after. -/
theorem asks_setSelection (hidle : s.phase = .idle) (now : Nat) (r : SelectionRequest) :
    Asks s (s.setSelection now r).1 0 := by
  cases h : grant? s.widget r with
  | none =>
    obtain ⟨log, hturned⟩ := s.exists_turnDown_eq r
    rw [setSelection_of_none h, hturned]
    exact .refl s
  | some range =>
    rw [setSelection_of_granted hidle h]
    let before := Widget.drain s.widget.widget
    let after := handOver before.2 range s.options.scroll
    have hcalls : s.widget.calls ++ [.drain before.1] ++ [.setSelection range] ++
        [.scrollIntoView range s.options.scroll] ++ [.drain after.1] =
          s.widget.calls ++ [.drain before.1, .setSelection range,
            .scrollIntoView range s.options.scroll, .drain after.1] := by
      simp
    exact ⟨_, hcalls, rfl⟩

/-- Nor do all its wishes ask for the focus at once. -/
theorem asks_reconcile (hidle : s.phase = .idle) (now : Nat) (w : Wishes) :
    Asks s (s.reconcile now w) 0 := by
  cases h : s.request? w with
  | none =>
    rw [reconcile_of_none h]
    exact asks_heed hidle w
  | some r =>
    rw [reconcile_of_some h]
    exact (asks_heed hidle w).trans (asks_setSelection (phase_heed hidle w) now r)

/-- **A look at the clock calls for the focus once if it gives it**, and else for nothing. -/
theorem calls_pollDeferred (s : Synchronizer (Recorder ω)) (now : Nat) :
    (s.pollDeferred now).1.widget.calls =
      s.widget.calls ++ if (s.pollDeferred now).2 then [.focus] else [] := by
  rcases early_or_due s now with h | ⟨deadline, hp, hdue⟩
  · rw [pollDeferred_of_early h]
    exact (List.append_nil _).symm
  · rw [pollDeferred_of_due hp hdue]
    split
    · rfl
    · exact (List.append_nil _).symm

/-- Tearing the widget down is the last call, and none for the focus. -/
theorem asks_destroy (s : Synchronizer (Recorder ω)) : Asks s s.destroy 0 := by
  rw [destroy_eq]
  split
  · exact ⟨[.destroy], rfl, rfl⟩
  · exact .refl s

/-- **Nothing but a look at the clock calls for the focus.** -/
theorem asks_perform (hidle : s.phase = .idle) {c : Command} (h : ∀ now, c ≠ .pollDeferred now) :
    Asks s (s.perform c).1 0 := by
  cases c with
  | processEvents => exact asks_processEvents hidle
  | setContent text => exact asks_setContent hidle text
  | setSelection now r =>
    rw [perform_setSelection]
    exact asks_setSelection hidle now r
  | setDisabled disabled => exact asks_setDisabled disabled
  | reconcile now w => exact asks_reconcile hidle now w
  | pollDeferred now => exact absurd rfl (h now)
  | destroy => exact asks_destroy s

section

variable {ω : Type} [Widget ω]

/-- **The focus is given just if one is due and the widget is alive.** -/
theorem pollDeferred_snd_iff (s : Synchronizer ω) (now : Nat) :
    (s.pollDeferred now).2 = true ↔
      (∃ deadline, s.pendingFocus = some deadline ∧ deadline ≤ now) ∧
        Widget.isAlive s.widget = true := by
  rcases early_or_due s now with h | ⟨deadline, hp, hdue⟩
  · rw [pollDeferred_of_early h]
    refine iff_of_false Bool.false_ne_true ?_
    rintro ⟨⟨deadline, hp, hdue⟩, -⟩
    exact absurd (h deadline hp) (Nat.not_lt.2 hdue)
  · rw [pollDeferred_of_due hp hdue]
    split
    · next halive => exact iff_of_true rfl ⟨⟨deadline, hp, hdue⟩, halive⟩
    · next halive => exact iff_of_false Bool.false_ne_true fun hboth => halive hboth.2

end

/-- Whether a turn gives the focus to the widget. -/
def gives (s : Synchronizer ω) : Turn α → Bool
  | .command (.pollDeferred now) => (s.pollDeferred now).2
  | _ => false

/-- A turn calls for the focus once if it gives it, and else not at all. -/
theorem asks_takeTurn (act : ω → α → ω) (hidle : s.phase = .idle) (t : Turn α) :
    Asks s (s.takeTurn (Recorder.act act) t) (s.gives t).toNat := by
  cases t with
  | widget a => exact .refl s
  | command c =>
    by_cases h : ∃ now, c = .pollDeferred now
    · obtain ⟨now, rfl⟩ := h
      have hcount : ∀ fired : Bool,
          (if fired then [Call.focus] else []).count .focus = fired.toNat := by decide
      exact ⟨_, calls_pollDeferred s now, hcount _⟩
    · have hgives : s.gives (.command c : Turn α) = false := by
        cases c with
        | pollDeferred now => exact absurd ⟨now, rfl⟩ h
        | _ => rfl
      rw [hgives]
      exact asks_perform hidle fun now hc => h ⟨now, hc⟩

/-- A focus that is given was to follow, and none is to follow afterwards. -/
theorem pending_of_gives {s : Synchronizer ω} {t : Turn α} (h : s.gives t = true) :
    s.pendingFocus.isSome = true ∧ s.pendingAfter t = none := by
  cases t with
  | widget a => cases h
  | command c =>
    cases c with
    | pollDeferred now =>
      obtain ⟨⟨deadline, hp, hdue⟩, -⟩ := (pollDeferred_snd_iff s now).1 h
      rw [hp]
      refine ⟨rfl, ?_⟩
      simp [pendingAfter, madeAt?, granted, hp, Option.filter_some, Turn.endsWait, hdue]
    | _ => cases h

/-- Only a selection that is made lets a focus follow where none was to. -/
theorem pending_or_granted {s : Synchronizer ω} {t : Turn α}
    (h : (s.pendingAfter t).isSome = true) :
    s.pendingFocus.isSome = true ∨ (s.grantedIn t).isSome = true := by
  obtain ⟨deadline, hdeadline⟩ := Option.isSome_iff_exists.1 h
  rcases pendingAfter_eq_some_iff.1 hdeadline with ⟨now, hmade, -⟩ | ⟨-, -, hp⟩
  · cases t with
    | widget a => cases hmade
    | command c =>
      obtain ⟨range, hgranted, -⟩ := Option.bind_eq_some_iff.1 hmade
      exact .inr (Option.isSome_iff_exists.2 ⟨range, hgranted⟩)
  · exact .inl (Option.isSome_iff_exists.2 ⟨deadline, hp⟩)

/-- In a turn the calls for the focus and the one to follow grow by the selections made, at most. -/
theorem gives_add_pending_le (s : Synchronizer ω) (t : Turn α) :
    (s.gives t).toNat + (s.pendingAfter t).isSome.toNat ≤
      s.pendingFocus.isSome.toNat + (s.grantedIn t).toList.length := by
  cases hgives : s.gives t with
  | true =>
    obtain ⟨hp, hnone⟩ := pending_of_gives hgives
    rw [hp, hnone]
    exact Nat.le_add_right 1 _
  | false =>
    cases hafter : (s.pendingAfter t).isSome with
    | false => exact Nat.zero_le _
    | true =>
      rcases pending_or_granted hafter with hp | hgranted
      · rw [hp]
        exact Nat.le_add_right 1 _
      · rw [Option.length_toList, if_pos hgranted]
        exact Nat.le_add_left 1 _

/-! ### Whole sessions -/

/-- **The calls for the focus, and the one to follow, are no more than the selections made.** -/
theorem count_focus_run_le (act : ω → α → ω) (hidle : s.phase = .idle) (turns : List (Turn α)) :
    (s.run (Recorder.act act) turns).widget.calls.count .focus +
        (s.run (Recorder.act act) turns).pendingFocus.isSome.toNat ≤
      s.widget.calls.count .focus + s.pendingFocus.isSome.toNat +
        (grants (Recorder.act act) s turns).length := by
  induction turns generalizing s with
  | nil => exact Nat.le_refl _
  | cons t turns ih =>
    have hidle' : (s.takeTurn (Recorder.act act) t).phase = .idle := phase_takeTurn hidle t
    have hrest := ih hidle'
    have hcount := (asks_takeTurn act hidle t).count_eq
    have hturn := gives_add_pending_le s t
    obtain ⟨hpending, -⟩ := leaves_takeTurn (Recorder.act act) hidle t
    rw [hpending, hcount] at hrest
    rw [grants, List.length_append]
    change ((s.takeTurn (Recorder.act act) t).run (Recorder.act act) turns).widget.calls.count _ +
      ((s.takeTurn (Recorder.act act) t).run (Recorder.act act) turns).pendingFocus.isSome.toNat ≤ _
    omega

/-- As long as the widget is gone nothing calls for the focus. -/
theorem count_focus_run_of_gone (act : ω → α → ω) (hidle : s.phase = .idle)
    {turns : List (Turn α)}
    (hgone : ∀ m ∈ history (Recorder.act act) s turns, Widget.isAlive m.1.widget = false) :
    (s.run (Recorder.act act) turns).widget.calls.count .focus =
      s.widget.calls.count .focus := by
  induction turns generalizing s with
  | nil => rfl
  | cons t turns ih =>
    rw [history, List.forall_mem_cons] at hgone
    have hgives : s.gives t = false := by
      cases t with
      | widget a => rfl
      | command c =>
        cases c with
        | pollDeferred now =>
          rw [← Bool.not_eq_true]
          intro hfired
          exact absurd hgone.1 (ne_false_of_eq_true ((pollDeferred_snd_iff s now).1 hfired).2)
        | _ => rfl
    have hcount := (asks_takeTurn act hidle t).count_eq
    rw [hgives] at hcount
    exact (ih (phase_takeTurn hidle t) hgone.2).trans hcount

/-- A session over a recorder has the history of the session over the widget in it. -/
theorem map_forget_history (act : ω → α → ω) (s : Synchronizer (Recorder ω))
    (turns : List (Turn α)) :
    (history (Recorder.act act) s turns).map (fun m => (m.1.forget, m.2)) =
      history act s.forget turns := by
  induction turns generalizing s with
  | nil => rfl
  | cons t turns ih => rw [history, List.map_cons, ih, forget_takeTurn, history]

/-- Whether the focus is given does not depend on the record. -/
theorem pollDeferred_forget_snd (s : Synchronizer (Recorder ω)) (now : Nat) :
    (s.forget.pollDeferred now).2 = (s.pollDeferred now).2 := by
  rw [Bool.eq_iff_iff, pollDeferred_snd_iff, pollDeferred_snd_iff]
  rfl

/-- **The focus follows the last selection that was made for the host**, and nothing else.  In every
session, over whatever widget, a focus is to follow from an instant on just if the last selection
was made the delay before it and neither a look at the clock since then came so late nor was the
synchronizer torn down.  A look at the clock calls for the focus once, and says so, if one is due
and the widget is alive; else it calls for nothing, and what is not due yet is kept.  No other
command calls for the focus.  So there are no more such calls than selections, and none once the
synchronizer was torn down and as long as the widget stays gone. -/
theorem focus_session (act : ω → α → ω) (w : ω) (o : SyncOptions) (turns : List (Turn α)) :
    let start : Synchronizer ω := { widget := w, options := o }
    let s := start.run act turns
    let t : Synchronizer (Recorder ω) :=
      run (Recorder.act act) { widget := { widget := w }, options := o } turns
    t.forget = s ∧
      (∀ deadline, s.pendingFocus = some deadline ↔ Awaits act start turns deadline) ∧
      (∀ now,
        ((s.pollDeferred now).2 = true ↔
          (∃ deadline, s.pendingFocus = some deadline ∧ deadline ≤ now) ∧
            Widget.isAlive s.widget = true) ∧
        (t.pollDeferred now).1.widget.calls =
          t.widget.calls ++ (if (s.pollDeferred now).2 then [.focus] else []) ∧
        ((∀ deadline ∈ s.pendingFocus, now < deadline) → (s.pollDeferred now).1 = s)) ∧
      (∀ c : Command, (∀ now, c ≠ .pollDeferred now) →
        ∃ calls, (t.perform c).1.widget.calls = t.widget.calls ++ calls ∧ Call.focus ∉ calls) ∧
      t.widget.calls.count .focus ≤ (grants act start turns).length ∧
      ∀ rest, (∀ m ∈ history act s.destroy rest, Widget.isAlive m.1.widget = false) →
        (t.destroy.run (Recorder.act act) rest).widget.calls.count .focus =
          t.widget.calls.count .focus := by
  intro start s t
  have hforget : t.forget = s := forget_run act _ turns
  have hidle : t.phase = .idle := phase_run rfl turns
  refine ⟨hforget, fun deadline => pendingFocus_run_iff act rfl rfl turns deadline, fun now =>
    ⟨pollDeferred_snd_iff s now, ?_, fun hearly => ?_⟩, fun c hc => ?_, ?_, fun rest hgone => ?_⟩
  · rw [← hforget, pollDeferred_forget_snd, calls_pollDeferred]
  · rw [pollDeferred_of_early hearly]
  · obtain ⟨calls, hcalls, hcount⟩ := asks_perform hidle hc
    exact ⟨calls, hcalls, List.count_eq_zero.1 hcount⟩
  · have hle := count_focus_run_le act (s := { widget := { widget := w }, options := o }) rfl turns
    rw [← grants_forget] at hle
    exact Nat.le_trans (Nat.le_add_right _ _) (Nat.le_trans hle (Nat.le_of_eq (Nat.zero_add _)))
  · have hidle' : t.destroy.phase = .idle := by rw [destroy_eq]
    have hgone' : ∀ m ∈ history (Recorder.act act) t.destroy rest,
        Widget.isAlive m.1.widget = false := by
      intro m hm
      refine hgone (m.1.forget, m.2) ?_
      rw [← hforget, ← forget_destroy, ← map_forget_history]
      exact List.mem_map_of_mem hm
    have hdestroy := (asks_destroy t).count_eq
    exact (count_focus_run_of_gone act hidle' hgone').trans hdestroy

end Synchronizer
end TuneEditor
