/-
# An editor in memory

A view holds a document, a selection from an anchor to a head where the cursor
sits, and a viewport of some lines.  It is a `Widget`: hosts drive it through
that interface, and users edit and select.

Edits and selections by the user scroll as little as is needed to keep the
cursor in view.  What a host does to the text or to the selection does not
scroll; the host asks for that by `scrollIntoView`.
-/

import TuneEditor.Document
import TuneEditor.Widget

namespace TuneEditor

/-- An editor: text, selection, viewport and the events not yet handed over. -/
structure View where
  document : Document
  /-- Where the selection began. -/
  anchor : Nat := 0
  /-- Where the cursor is. -/
  head : Nat := 0
  /-- The first line in view. -/
  topLine : Nat := 0
  /-- The number of lines that the viewport has room for. -/
  height : Nat
  editable : Bool := true
  focused : Bool := false
  alive : Bool := true
  /-- Whether the text was ever changed. -/
  modified : Bool := false
  /-- The number of changes of the text. -/
  revision : Nat := 0
  outbox : List Event := []
  deriving DecidableEq

namespace View

/-- A view of a text, with a viewport of one line at least. -/
def new (text : List Char) (height : Nat) : View where
  document := .ofChars text
  height := max height 1

/-- The text. -/
def text (v : View) : List Char :=
  v.document.chars

/-- What is selected. -/
def selection (v : View) : Selection :=
  .between v.anchor v.head

/-- The line of the cursor. -/
def cursorLine (v : View) : Nat :=
  (v.document.position v.head).line

/-- Whether a line is in view. -/
def isLineVisible (v : View) (line : Nat) : Bool :=
  v.topLine ≤ line && line < v.topLine + v.height

/-- The lowest position of the viewport that leaves no row empty while lines are hidden above. -/
def maxTopLine (v : View) : Nat :=
  v.document.lineCount - v.height

/-- The viewport moved as little as brings the line of the cursor into view. -/
def ensureCursorVisible (v : View) : View :=
  if v.cursorLine < v.topLine then { v with topLine := v.cursorLine }
  else if v.topLine + v.height ≤ v.cursorLine then
    { v with topLine := v.cursorLine + 1 - v.height }
  else v

/-- A viewport of another height, of one line at least. -/
def setHeight (v : View) (height : Nat) : View :=
  let v := { v with height := max height 1 }
  { v with topLine := min v.topLine v.maxTopLine }

/-- Another anchor and head.  It is an event if another part of the text is selected then. -/
def applySelection (v : View) (anchor head : Nat) : View :=
  let v' := { v with anchor, head }
  if v'.selection = v.selection then v'
  else { v' with outbox := v.outbox ++ [.selection v'.selection] }

/-- Another document, as an event. -/
def changeDocument (v : View) (d : Document) : View :=
  { v with
    document := d
    modified := true
    revision := v.revision + 1
    outbox := v.outbox ++ [.content d.chars] }

/-- An edit by the user: a text in place of a part of the document, and the cursor behind it.
Nothing if the view takes no edits or the part does not exist. -/
def edit? (v : View) (s : Selection) (text : List Char) : Option View :=
  if v.alive && v.editable then
    (v.document.replace? s.start s.stop text).map fun d =>
      let caret := s.start + text.length
      ((v.changeDocument d).applySelection caret caret).ensureCursorVisible
  else none

/-- Types a text in place of the selection; nothing if the view takes no edits. -/
def insert? (v : View) (text : List Char) : Option View :=
  v.edit? v.selection text

/-- Deletes the selection, or the character before a caret; nothing if there is none or the view
takes no edits. -/
def deleteBackward? (v : View) : Option View :=
  let s := v.selection
  if s.isEmpty then
    if s.start = 0 then none else v.edit? ⟨s.start - 1, s.start⟩ []
  else v.edit? s []

/-- Selects as a user does who drags from one place to another. -/
def select (v : View) (anchor head : Nat) : View :=
  if v.alive then
    (v.applySelection (min anchor v.document.size) (min head v.document.size)).ensureCursorVisible
  else v

/-- Puts the cursor somewhere, with nothing selected. -/
def moveCursor (v : View) (offset : Nat) : View :=
  v.select offset offset

/-- Another text in place of the whole one.  The selection stays as far as the text reaches. -/
def replaceAll (v : View) (text : List Char) : View :=
  if v.alive then
    let v := v.changeDocument (.ofChars text)
    { v with
      anchor := min v.anchor v.document.size
      head := min v.head v.document.size
      topLine := min v.topLine v.maxTopLine }
  else v

/-- Another selection, as far as the text reaches. -/
def setSelection (v : View) (s : Selection) : View :=
  if v.alive then
    let s := s.clamped v.document.size
    v.applySelection s.start s.stop
  else v

/-- Where the viewport has to begin for a line to be in view. -/
def topLineFor (v : View) (line : Nat) (o : Scroll) : Nat :=
  if o.centered then line - v.height / 2
  else
    let margin := min o.margin ((v.height - 1) / 2)
    if line < v.topLine + margin then line - margin
    else if v.topLine + v.height ≤ line + margin then line + margin + 1 - v.height
    else v.topLine

/-- Brings the line where a selection starts into view, and no more rows below the text than
needed. -/
def scrollIntoView (v : View) (s : Selection) (o : Scroll) : View :=
  if v.alive then
    { v with topLine := min (v.topLineFor (v.document.position s.start).line o) v.maxTopLine }
  else v

/-- Takes the focus. -/
def focus (v : View) : View :=
  if v.alive then { v with focused := true } else v

/-- Lets the user edit, or not. -/
def setEditable (v : View) (editable : Bool) : View :=
  { v with editable }

/-- Tears the view down.  Events that nobody has taken are lost. -/
def destroy (v : View) : View :=
  { v with alive := false, focused := false, outbox := [] }

/-- Hands over the events. -/
def drain (v : View) : List Event × View :=
  (v.outbox, { v with outbox := [] })

instance : Widget View where
  isAlive := View.alive
  text := View.text
  length v := v.document.size
  selection := View.selection
  replaceAll := View.replaceAll
  setSelection := View.setSelection
  scrollIntoView := View.scrollIntoView
  focus := View.focus
  setEditable := View.setEditable
  destroy := View.destroy
  drain := View.drain

end View
end TuneEditor
