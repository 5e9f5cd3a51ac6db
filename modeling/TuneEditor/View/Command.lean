/-
# Commands to a view

Everything that can be done to a view, as a value.  A run of the editor is a
list of commands, and `View.run` is the view after it.
-/

import TuneEditor.View

namespace TuneEditor
namespace View

/-- One thing to do to a view. -/
inductive Command
  | insert (text : List Char)
  | deleteBackward
  | moveCursor (offset : Nat)
  | select (anchor head : Nat)
  | setHeight (height : Nat)
  | ensureCursorVisible
  | replaceAll (text : List Char)
  | setSelection (s : Selection)
  | scrollIntoView (s : Selection) (o : Scroll)
  | focus
  | setEditable (editable : Bool)
  | destroy
  | drain
  deriving DecidableEq, Repr

/-- What a command has to say for itself. -/
inductive Reply
  | done
  /-- Whether an edit was made. -/
  | edited (accepted : Bool)
  | events (es : List Event)
  deriving DecidableEq, Repr

/-- The view after an edit that may be refused. -/
private def afterEdit (v : View) (edited : Option View) : View × Reply :=
  match edited with
  | some v' => (v', .edited true)
  | none => (v, .edited false)

/-- Carries out a command. -/
def perform (v : View) : Command → View × Reply
  | .insert text => v.afterEdit (v.insert? text)
  | .deleteBackward => v.afterEdit v.deleteBackward?
  | .moveCursor offset => (v.moveCursor offset, .done)
  | .select anchor head => (v.select anchor head, .done)
  | .setHeight height => (v.setHeight height, .done)
  | .ensureCursorVisible => (v.ensureCursorVisible, .done)
  | .replaceAll text => (v.replaceAll text, .done)
  | .setSelection s => (v.setSelection s, .done)
  | .scrollIntoView s o => (v.scrollIntoView s o, .done)
  | .focus => (v.focus, .done)
  | .setEditable editable => (v.setEditable editable, .done)
  | .destroy => (v.destroy, .done)
  | .drain => (v.drain.2, .events v.drain.1)

/-- The view after some commands. -/
def run (v : View) (commands : List Command) : View :=
  commands.foldl (fun v c => (v.perform c).1) v

end View
end TuneEditor
