/-
# Keeping a host and a widget in agreement

A host, such as a rendered score, holds a copy of the text and asks for
selections; a user edits the widget.  The synchronizer stands between them.
What the user changes is told to the host.  What the host changes is done to
the widget, and the widget then reports it like any other change.

A selection made for the host would so come back to it as an echo.  While it
makes one, the synchronizer is in the phase `applying`, and the first selection
event it takes in that phase is kept from the host.

Time is an argument: an instant is a number of milliseconds, whoever reads the
clock.  What the host hears and what is logged are kept in lists, the oldest
first, for whoever passes them on.
-/

import TuneEditor.Widget

namespace TuneEditor

/-- What the host is told. -/
inductive Notice
  | changed (text : List Char)
  | selected (start stop : Nat)
  deriving DecidableEq, Repr

/-- What is worth a line in the log. -/
inductive LogRecord
  /-- A request of the host did not fit the text. -/
  | rejected (e : InvalidSelection)
  /-- The echo of a request was kept from the host. -/
  | suppressed (s : Selection)
  /-- The widget was given the focus. -/
  | focused
  deriving DecidableEq, Repr

namespace LogRecord

/-- Whether a record is a warning; the others are for finding faults. -/
def isWarning : LogRecord → Bool
  | rejected _ => true
  | _ => false

/-- The record in words. -/
def message : LogRecord → String
  | rejected e => "Rejected selection request: " ++ e.message
  | suppressed s =>
    "Suppressed echo of host selection " ++ toString s.start ++ ".." ++ toString s.stop
  | focused => "Deferred focus fired"

end LogRecord

/-- Everything a host wants of its editor. -/
structure Wishes where
  text : List Char := []
  selection : Option SelectionRequest := none
  disabled : Bool := false
  deriving DecidableEq, Repr

/-- Whether a selection is being made for the host. -/
inductive Phase
  | idle
  | applying
  deriving DecidableEq, Repr

/-- How selections of the host are made. -/
structure SyncOptions where
  /-- Lines to keep in view around a selection. -/
  scrollMargin : Nat := 5
  /-- Milliseconds from a selection to the focus that follows it. -/
  focusDelay : Nat := 10
  deriving DecidableEq, Repr

/-- A widget, and what there is to remember between it and its host. -/
structure Synchronizer (ω : Type) where
  widget : ω
  options : SyncOptions := {}
  phase : Phase := .idle
  /-- The instant from which the widget is to get the focus. -/
  pendingFocus : Option Nat := none
  /-- The request among the wishes that were heard last. -/
  lastRequest : Option SelectionRequest := none
  /-- What the host was told. -/
  heard : List Notice := []
  log : List LogRecord := []
  deriving DecidableEq

namespace Synchronizer

variable {ω : Type}

/-- Tells the host something. -/
def tell (s : Synchronizer ω) (n : Notice) : Synchronizer ω :=
  { s with heard := s.heard ++ [n] }

/-- Adds a record to the log. -/
def note (s : Synchronizer ω) (r : LogRecord) : Synchronizer ω :=
  { s with log := s.log ++ [r] }

/-- The text of the widget was changed. -/
def contentChanged (s : Synchronizer ω) (text : List Char) : Synchronizer ω :=
  s.tell (.changed text)

/-- The selection of the widget was changed.  The first such change while a selection is made for
the host is its echo. -/
def selectionChanged (s : Synchronizer ω) (r : Selection) : Synchronizer ω :=
  match s.phase with
  | .applying => { s.note (.suppressed r) with phase := .idle }
  | .idle => s.tell (.selected r.start r.stop)

/-- Passes an event on. -/
def dispatch (s : Synchronizer ω) : Event → Synchronizer ω
  | .content text => s.contentChanged text
  | .selection r => s.selectionChanged r

variable [Widget ω]

/-- Takes the events of the widget and passes them on. -/
def processEvents (s : Synchronizer ω) : Synchronizer ω :=
  let (events, widget) := Widget.drain s.widget
  events.foldl dispatch { s with widget }

/-- Puts a text of the host into the widget, unless it is there already. -/
def setContent (s : Synchronizer ω) (text : List Char) : Synchronizer ω :=
  if Widget.isAlive s.widget && Widget.text s.widget != text then
    processEvents { s with widget := Widget.replaceAll s.widget text }
  else s

/-- Selects what the host asks for, `now`, if it fits the text.  What the user did before is told
first, and the focus follows after a while.  A widget that is gone is left alone. -/
def setSelection (s : Synchronizer ω) (now : Nat) (r : SelectionRequest) :
    Synchronizer ω × Except InvalidSelection Unit :=
  if Widget.isAlive s.widget then
    match Selection.checked r (Widget.length s.widget) with
    | .error e => (s.note (.rejected e), .error e)
    | .ok range =>
      let s := s.processEvents
      let widget := Widget.scrollIntoView (Widget.setSelection s.widget range) range
        { centered := true, margin := s.options.scrollMargin }
      let s := processEvents { s with phase := .applying, widget }
      ({ s with phase := .idle, pendingFocus := some (now + s.options.focusDelay) }, .ok ())
  else (s, .ok ())

/-- Keeps the user from editing, or not. -/
def setDisabled (s : Synchronizer ω) (disabled : Bool) : Synchronizer ω :=
  if Widget.isAlive s.widget then
    { s with widget := Widget.setEditable s.widget (!disabled) }
  else s

/-- Does everything a host wishes.  A request is taken up when it differs from the one before, so
that the cursor stays where the user put it when the host repeats its wishes. -/
def reconcile (s : Synchronizer ω) (now : Nat) (w : Wishes) : Synchronizer ω :=
  let s := (s.setContent w.text).setDisabled w.disabled
  if w.selection = s.lastRequest then s
  else
    let s := { s with lastRequest := w.selection }
    match w.selection with
    | some r => (s.setSelection now r).1
    | none => s

/-- Gives the widget the focus if the time for it has come, and tells whether it did. -/
def pollDeferred (s : Synchronizer ω) (now : Nat) : Synchronizer ω × Bool :=
  match s.pendingFocus with
  | none => (s, false)
  | some deadline =>
    if deadline ≤ now then
      let s := { s with pendingFocus := none }
      if Widget.isAlive s.widget then
        ({ s.note .focused with widget := Widget.focus s.widget }, true)
      else (s, false)
    else (s, false)

/-- Tears the widget down and forgets what was still to be done. -/
def destroy (s : Synchronizer ω) : Synchronizer ω :=
  let s := { s with pendingFocus := none, phase := .idle }
  if Widget.isAlive s.widget then { s with widget := Widget.destroy s.widget } else s

end Synchronizer
end TuneEditor
