/-
# A view reports what it shows

A host cannot look into a view.  It keeps a copy of the text and the selection,
a `Mirror`, and changes it by what it hears; a text that it hears of cuts its
selection off at the end of that text.

Everything that is done to a view keeps this copy good: if the mirror showed
what the view shows before, then it does so again once the events queued since
are heard (`reports_act`).  Nothing is reported where nothing changes, and
a text put in place of the whole one moves the selection without an event for
it, just as the mirror does.
-/

import TuneEditor.Proofs.Document
import TuneEditor.Proofs.Synchronizer.Operations
import TuneEditor.View.Command

namespace TuneEditor

/-- What a host knows of an editor. -/
structure Mirror where
  text : List Char
  selection : Selection
  deriving DecidableEq, Repr

namespace Mirror

/-- The mirror after a notice. -/
def hear (m : Mirror) : Notice → Mirror
  | .changed text => ⟨text, m.selection.clamped text.length⟩
  | .selected start stop => { m with selection := ⟨start, stop⟩ }

/-- The mirror after some notices. -/
def hearAll (m : Mirror) (ns : List Notice) : Mirror :=
  ns.foldl hear m

/-- What is heard in two parts is heard in full. -/
theorem hearAll_append (m : Mirror) (ns ns' : List Notice) :
    m.hearAll (ns ++ ns') = (m.hearAll ns).hearAll ns' :=
  List.foldl_append

end Mirror

namespace Selection

/-- Clamping the offsets and putting them in order can be done either way round. -/
theorem clamped_between (a b n : Nat) :
    (between a b).clamped n = between (min a n) (min b n) := by
  have hmin : min (min a b) n = min (min a n) (min b n) := by omega
  have hmax : min (max a b) n = max (min a n) (min b n) := by omega
  unfold between clamped
  rw [hmin, hmax]

/-- A selection in the text is not cut off. -/
theorem clamped_of_le {s : Selection} {n : Nat} (h₁ : s.start ≤ n) (h₂ : s.stop ≤ n) :
    s.clamped n = s := by
  unfold clamped
  rw [Nat.min_eq_left h₁, Nat.min_eq_left h₂]

/-- Offsets in order stay in order. -/
theorem between_of_le {a b : Nat} (h : a ≤ b) : between a b = ⟨a, b⟩ := by
  unfold between
  rw [Nat.min_eq_left h, Nat.max_eq_right h]

end Selection

namespace View

/-- What a view shows. -/
def shown (v : View) : Mirror :=
  ⟨v.text, v.selection⟩

/-- What a host hears when it takes the events of a view. -/
def news (v : View) : List Notice :=
  v.outbox.map Event.notice

/-- Events were queued that make a mirror of the one view a mirror of the other. -/
def Reports (v v' : View) : Prop :=
  ∃ es : List Event,
    v'.outbox = v.outbox ++ es ∧ v.shown.hearAll (es.map Event.notice) = v'.shown

namespace Reports

/-- Where neither text nor selection changes, nothing is to be reported. -/
theorem of_same {v v' : View} (houtbox : v'.outbox = v.outbox) (hshown : v'.shown = v.shown) :
    Reports v v' :=
  ⟨[], by rw [houtbox, List.append_nil], hshown.symm⟩

/-- Where nothing is done nothing is to be reported. -/
theorem refl (v : View) : Reports v v :=
  of_same rfl rfl

/-- What is reported of two steps is reported of both together. -/
theorem trans {v v' v'' : View} (h : Reports v v') (h' : Reports v' v'') : Reports v v'' := by
  obtain ⟨es, houtbox, hshown⟩ := h
  obtain ⟨es', houtbox', hshown'⟩ := h'
  refine ⟨es ++ es', ?_, ?_⟩
  · rw [houtbox', houtbox, List.append_assoc]
  · rw [List.map_append, Mirror.hearAll_append, hshown, hshown']

/-- A mirror that would be good once it has heard the news of the first view is good once it has
heard those of the second. -/
theorem hearAll_news {v v' : View} (h : Reports v v') {m : Mirror}
    (hm : m.hearAll v.news = v.shown) : m.hearAll v'.news = v'.shown := by
  obtain ⟨es, houtbox, hshown⟩ := h
  unfold news at hm ⊢
  rw [houtbox, List.map_append, Mirror.hearAll_append, hm, hshown]

end Reports

/-- What is queued when another part of the text is selected. -/
theorem applySelection_eq (v : View) (anchor head : Nat) :
    v.applySelection anchor head =
      { v with
        anchor, head
        outbox := v.outbox ++
          if Selection.between anchor head = v.selection then []
          else [.selection (.between anchor head)] } := by
  by_cases h : Selection.between anchor head = v.selection
  · rw [if_pos h, List.append_nil]
    exact if_pos h
  · rw [if_neg h]
    exact if_neg h

/-- A selection is reported if it is another one. -/
theorem reports_applySelection (v : View) (anchor head : Nat) :
    Reports v (v.applySelection anchor head) := by
  rw [applySelection_eq]
  split
  · next h => exact .of_same (List.append_nil _) (congrArg (Mirror.mk v.text) h)
  · exact ⟨[.selection (.between anchor head)], rfl, rfl⟩

/-- A new text is reported before the caret behind it.  A caret that was there already is not
reported, and the mirror has it because the new text reaches as far. -/
theorem reports_retype (v : View) {d : Document} {caret : Nat} (h : caret ≤ d.size) :
    Reports v ((v.changeDocument d).applySelection caret caret) := by
  have hcaret : Selection.between caret caret = ⟨caret, caret⟩ :=
    Selection.between_of_le (Nat.le_refl caret)
  rw [d.size_eq] at h
  rw [applySelection_eq]
  split
  · next heq =>
    -- `changeDocument` leaves the selection alone.
    have hv : v.selection = Selection.between caret caret := heq.symm
    have hclamped : v.selection.clamped d.chars.length = Selection.between caret caret := by
      rw [hv, hcaret, Selection.clamped_of_le h h]
    exact ⟨[.content d.chars], List.append_nil _, congrArg (Mirror.mk d.chars) hclamped⟩
  · exact ⟨[.content d.chars, .selection (.between caret caret)], List.append_assoc .., rfl⟩

/-- A mirror shows no viewport, so following the cursor is not reported. -/
theorem reports_ensureCursorVisible (v : View) : Reports v v.ensureCursorVisible := by
  unfold ensureCursorVisible
  split
  · exact .of_same rfl rfl
  · split
    · exact .of_same rfl rfl
    · exact .refl v

/-- An edit that is made puts the cursor behind the new text, which is in the document. -/
theorem reports_edit? {v v' : View} {s : Selection} {text : List Char}
    (h : v.edit? s text = some v') : Reports v v' := by
  unfold edit? at h
  split at h
  · obtain ⟨d, hd, rfl⟩ := Option.map_eq_some_iff.1 h
    have hle : s.start + text.length ≤ d.size := Document.le_size_of_replace? hd
    exact (reports_retype v hle).trans (reports_ensureCursorVisible _)
  · cases h

/-- Typing is reported as an edit. -/
theorem reports_insert? {v v' : View} {text : List Char} (h : v.insert? text = some v') :
    Reports v v' :=
  reports_edit? h

/-- What deletes backward is an edit with no text, of one part or another. -/
theorem edit?_of_deleteBackward? {v v' : View} (h : v.deleteBackward? = some v') :
    ∃ part, v.edit? part [] = some v' := by
  unfold deleteBackward? at h
  dsimp only at h
  split at h
  · split at h
    · cases h
    · exact ⟨_, h⟩
  · exact ⟨_, h⟩

/-- So is backspace. -/
theorem reports_deleteBackward? {v v' : View} (h : v.deleteBackward? = some v') :
    Reports v v' := by
  obtain ⟨part, hedit⟩ := edit?_of_deleteBackward? h
  exact reports_edit? hedit

/-- Selecting is reported, and following the cursor is not. -/
theorem reports_select (v : View) (anchor head : Nat) : Reports v (v.select anchor head) := by
  unfold select
  split
  · exact (reports_applySelection v _ _).trans (reports_ensureCursorVisible _)
  · exact .refl v

/-- The selection is cut off at the end of the new text, which is what the mirror does when it
hears of the text. -/
theorem reports_replaceAll (v : View) (text : List Char) : Reports v (v.replaceAll text) := by
  unfold replaceAll
  split
  · have hclamped : v.selection.clamped text.length =
        .between (min v.anchor text.length) (min v.head text.length) :=
      Selection.clamped_between ..
    exact ⟨[.content text], rfl, congrArg (Mirror.mk text) hclamped⟩
  · exact .refl v

/-- A selection of the host is reported like any other. -/
theorem reports_setSelection (v : View) (s : Selection) : Reports v (v.setSelection s) := by
  unfold setSelection
  split
  · exact reports_applySelection v _ _
  · exact .refl v

/-- Scrolling is not reported. -/
theorem reports_scrollIntoView (v : View) (s : Selection) (o : Scroll) :
    Reports v (v.scrollIntoView s o) := by
  unfold scrollIntoView
  split
  · exact .of_same rfl rfl
  · exact .refl v

/-- Nor is the focus. -/
theorem reports_focus (v : View) : Reports v v.focus := by
  unfold focus
  split
  · exact .of_same rfl rfl
  · exact .refl v

namespace Command

/-- Whether a command leaves queued events in the queue: all do but the end of the view and the
taking of the events. -/
def keepsQueue : Command → Bool
  | destroy => false
  | drain => false
  | _ => true

end Command

/-- The view after a command, for hosts that do not ask what came of it. -/
def act (v : View) (c : Command) : View :=
  (v.perform c).1

/-- **Whatever is done to a view, it reports what it shows.** -/
theorem reports_act (v : View) {c : Command} (h : c.keepsQueue = true) :
    Reports v (v.act c) := by
  unfold act
  cases c with
  | insert text =>
    cases hv : v.insert? text with
    | none =>
      simp only [perform, hv]
      exact .refl v
    | some v' =>
      simp only [perform, hv]
      exact reports_insert? hv
  | deleteBackward =>
    cases hv : v.deleteBackward? with
    | none =>
      simp only [perform, hv]
      exact .refl v
    | some v' =>
      simp only [perform, hv]
      exact reports_deleteBackward? hv
  | moveCursor offset => exact reports_select v offset offset
  | select anchor head => exact reports_select v anchor head
  | setHeight height => exact .of_same rfl rfl
  | ensureCursorVisible => exact reports_ensureCursorVisible v
  | replaceAll text => exact reports_replaceAll v text
  | setSelection s => exact reports_setSelection v s
  | scrollIntoView s o => exact reports_scrollIntoView v s o
  | focus => exact reports_focus v
  | setEditable editable => exact .of_same rfl rfl
  | destroy => cases h
  | drain => cases h

end View
end TuneEditor
