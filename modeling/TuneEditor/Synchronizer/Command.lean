/-
# Commands to a synchronizer

Everything that a host and a clock can do to a synchronizer, as a value.
Between two commands the widget may change under the hands of its user, or by
itself: a session is a list of turns, each a command or an act of the widget,
and `Synchronizer.run` is the synchronizer after it.
-/

import TuneEditor.Synchronizer

namespace TuneEditor
namespace Synchronizer

/-- One thing to do to a synchronizer, with the instant at which it is done where that counts. -/
inductive Command
  | processEvents
  | setContent (text : List Char)
  | setSelection (now : Nat) (r : SelectionRequest)
  | setDisabled (disabled : Bool)
  | reconcile (now : Nat) (w : Wishes)
  | pollDeferred (now : Nat)
  | destroy
  deriving DecidableEq, Repr

/-- What a command has to say for itself. -/
inductive Reply
  | done
  /-- A selection was made, or there was no widget to make it in. -/
  | accepted
  | refused (e : InvalidSelection)
  /-- Whether the widget was given the focus. -/
  | polled (fired : Bool)
  deriving DecidableEq, Repr

variable {ω α : Type} [Widget ω]

/-- Carries out a command. -/
def perform (s : Synchronizer ω) : Command → Synchronizer ω × Reply
  | .processEvents => (s.processEvents, .done)
  | .setContent text => (s.setContent text, .done)
  | .setSelection now r =>
    match s.setSelection now r with
    | (s, .ok ()) => (s, .accepted)
    | (s, .error e) => (s, .refused e)
  | .setDisabled disabled => (s.setDisabled disabled, .done)
  | .reconcile now w => (s.reconcile now w, .done)
  | .pollDeferred now =>
    let (s, fired) := s.pollDeferred now
    (s, .polled fired)
  | .destroy => (s.destroy, .done)

/-- What happens next in a session. -/
inductive Turn (α : Type)
  | command (c : Command)
  /-- The widget acts, and nobody is told yet. -/
  | widget (a : α)
  deriving DecidableEq, Repr

/-- The synchronizer after one turn, for a widget that acts by `act`. -/
def takeTurn (act : ω → α → ω) (s : Synchronizer ω) : Turn α → Synchronizer ω
  | .command c => (s.perform c).1
  | .widget a => { s with widget := act s.widget a }

/-- The synchronizer after a session. -/
def run (act : ω → α → ω) (s : Synchronizer ω) (turns : List (Turn α)) : Synchronizer ω :=
  turns.foldl (takeTurn act) s

end Synchronizer
end TuneEditor
