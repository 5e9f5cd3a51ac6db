/-
# Nobody in a view looks at the queue

A view puts events at the end of its queue and looks at them no more.  So with some
events more in front of the queue everything goes as it would without them: an edit
is made or not, the text, the selection and the viewport become the same, and the
same events are queued behind (`perform_queue`).

Two commands are no case of this.  The taking of events empties the queue, and so
does the end of the view.
-/

import TuneEditor.Proofs.View.Reports

namespace TuneEditor
namespace View

/-- The view with some events in front of those in its queue. -/
def queue (v : View) (es : List Event) : View :=
  { v with outbox := es ++ v.outbox }

/-- A view is what it is once its events were taken, with those events in its queue. -/
theorem queue_drain (v : View) : v.drain.2.queue v.outbox = v := by
  simp [queue, drain]

variable (v : View) (es : List Event)

/-- Whether a selection is another one is told from the view, not from its queue. -/
theorem applySelection_queue (anchor head : Nat) :
    (v.queue es).applySelection anchor head = (v.applySelection anchor head).queue es := by
  rw [applySelection_eq, applySelection_eq]
  simp only [queue, List.append_assoc]
  rfl

/-- A change of the text is queued behind whatever waits. -/
theorem changeDocument_queue (d : Document) :
    (v.queue es).changeDocument d = (v.changeDocument d).queue es := by
  simp only [changeDocument, queue, List.append_assoc]

/-- Following the cursor queues nothing. -/
theorem ensureCursorVisible_queue :
    (v.queue es).ensureCursorVisible = v.ensureCursorVisible.queue es := by
  unfold ensureCursorVisible
  rw [apply_ite (queue · es), apply_ite (queue · es)]
  rfl

/-- An edit is made or refused alike, and its events are queued behind those that wait. -/
theorem edit?_queue (s : Selection) (text : List Char) :
    (v.queue es).edit? s text = (v.edit? s text).map (queue · es) := by
  have hretype : ∀ (d : Document) (caret : Nat),
      (((v.queue es).changeDocument d).applySelection caret caret).ensureCursorVisible =
        (((v.changeDocument d).applySelection caret caret).ensureCursorVisible).queue es := by
    intro d caret
    rw [changeDocument_queue, applySelection_queue, ensureCursorVisible_queue]
  unfold edit?
  rw [apply_ite (Option.map (queue · es)), Option.map_map]
  simp only [hretype]
  rfl

/-- So is typing. -/
theorem insert?_queue (text : List Char) :
    (v.queue es).insert? text = (v.insert? text).map (queue · es) :=
  edit?_queue v es v.selection text

/-- So is backspace. -/
theorem deleteBackward?_queue :
    (v.queue es).deleteBackward? = v.deleteBackward?.map (queue · es) := by
  unfold deleteBackward?
  dsimp only
  rw [apply_ite (Option.map (queue · es)), apply_ite (Option.map (queue · es)),
    ← edit?_queue, ← edit?_queue]
  rfl

/-- So is selecting. -/
theorem select_queue (anchor head : Nat) :
    (v.queue es).select anchor head = (v.select anchor head).queue es := by
  unfold select
  rw [apply_ite (queue · es), ← ensureCursorVisible_queue, ← applySelection_queue]
  rfl

/-- So is another text in place of the whole one. -/
theorem replaceAll_queue (text : List Char) :
    (v.queue es).replaceAll text = (v.replaceAll text).queue es := by
  unfold replaceAll
  dsimp only
  rw [apply_ite (queue · es), changeDocument_queue]
  rfl

/-- So is a selection of the host. -/
theorem setSelection_queue (s : Selection) :
    (v.queue es).setSelection s = (v.setSelection s).queue es := by
  unfold setSelection
  dsimp only
  rw [apply_ite (queue · es), ← applySelection_queue]
  rfl

/-- Scrolling queues nothing. -/
theorem scrollIntoView_queue (s : Selection) (o : Scroll) :
    (v.queue es).scrollIntoView s o = (v.scrollIntoView s o).queue es := by
  unfold scrollIntoView
  rw [apply_ite (queue · es)]
  rfl

/-- Nor does the focus. -/
theorem focus_queue : (v.queue es).focus = v.focus.queue es := by
  unfold focus
  rw [apply_ite (queue · es)]
  rfl

/-- An edit is made or refused as it would be without them. -/
theorem perform_queue_of_edit {c : Command} {edited : View → Option View}
    (hperform : ∀ w : View, w.perform c =
      match edited w with
      | some w' => (w', .edited true)
      | none => (w, .edited false))
    (hedited : edited (v.queue es) = (edited v).map (queue · es)) :
    (v.queue es).perform c = ((v.perform c).1.queue es, (v.perform c).2) := by
  rw [hperform, hperform, hedited]
  cases edited v with
  | none => rfl
  | some v' => rfl

/-- **Events in front of the queue change nothing of what a command does**, unless it empties the
queue. -/
theorem perform_queue {c : Command} (h : c.keepsQueue = true) :
    (v.queue es).perform c = ((v.perform c).1.queue es, (v.perform c).2) := by
  cases c with
  | insert text => exact perform_queue_of_edit v es (fun _ => rfl) (insert?_queue v es text)
  | deleteBackward => exact perform_queue_of_edit v es (fun _ => rfl) (deleteBackward?_queue v es)
  | moveCursor offset => exact congrArg (·, Reply.done) (select_queue v es offset offset)
  | select anchor head => exact congrArg (·, Reply.done) (select_queue v es anchor head)
  | setHeight height => rfl
  | ensureCursorVisible => exact congrArg (·, Reply.done) (ensureCursorVisible_queue v es)
  | replaceAll text => exact congrArg (·, Reply.done) (replaceAll_queue v es text)
  | setSelection s => exact congrArg (·, Reply.done) (setSelection_queue v es s)
  | scrollIntoView s o => exact congrArg (·, Reply.done) (scrollIntoView_queue v es s o)
  | focus => exact congrArg (·, Reply.done) (focus_queue v es)
  | setEditable editable => rfl
  | destroy => cases h
  | drain => cases h

/-- A command leaves a view with events in front of what it would leave without them. -/
theorem act_eq_queue {c : Command} (h : c.keepsQueue = true) :
    v.act c = (v.drain.2.act c).queue v.outbox := by
  have hperform := perform_queue v.drain.2 v.outbox h
  rw [queue_drain] at hperform
  exact congrArg Prod.fst hperform

/-- A command is answered as it would be without the events in the queue. -/
theorem perform_drain_snd {c : Command} (h : c.keepsQueue = true) :
    (v.drain.2.perform c).2 = (v.perform c).2 := by
  have hperform := perform_queue v.drain.2 v.outbox h
  rw [queue_drain] at hperform
  exact (congrArg Prod.snd hperform).symm

end View
end TuneEditor
