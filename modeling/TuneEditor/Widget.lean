/-
# What an editor widget can do

Anything that shows a text, has a selection and reports its own changes can be
kept in agreement with a host.  A widget is any type with the operations of
the class `Widget`; each gives the widget as it is afterwards.

A widget queues its changes as events and hands them over when it is drained.
-/

import TuneEditor.Selection

namespace TuneEditor

/-- A change that a widget reports. -/
inductive Event
  /-- The text is now this one. -/
  | content (text : List Char)
  /-- The selection is now this one, by the user's hand or not. -/
  | selection (s : Selection)
  deriving DecidableEq, Repr

/-- How to bring a selection into view. -/
structure Scroll where
  /-- Its line goes to the middle of the viewport. -/
  centered : Bool := true
  /-- Otherwise the lines that stay in view above and below it. -/
  margin : Nat := 5
  deriving DecidableEq, Repr

/-- The operations of an editor widget. -/
class Widget (ω : Type) where
  /-- False once the widget was torn down. -/
  isAlive : ω → Bool
  text : ω → List Char
  /-- The number of characters of the text. -/
  length : ω → Nat
  selection : ω → Selection
  /-- Puts another text in place of the whole one. -/
  replaceAll : ω → List Char → ω
  setSelection : ω → Selection → ω
  scrollIntoView : ω → Selection → Scroll → ω
  focus : ω → ω
  /-- Lets the user edit, or not. -/
  setEditable : ω → Bool → ω
  /-- Tears the widget down. -/
  destroy : ω → ω
  /-- Hands over the events in the order in which they happened. -/
  drain : ω → List Event × ω

end TuneEditor
