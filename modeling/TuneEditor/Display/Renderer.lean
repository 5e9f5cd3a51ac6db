/-
# Drawing a view

A renderer draws the lines in view, each cut where the screen ends, and the
mode line.  It remembers the highlighting of the lines and the revision of the
text that it belongs to: drawing a view at another revision forgets it.
-/

import TuneEditor.Display.Frame
import TuneEditor.Highlight.Cache
import TuneEditor.View

namespace TuneEditor

/-- How views are drawn, and what is known of the one drawn last. -/
structure Renderer where
  theme : Theme := {}
  lineNumbers : Bool := false
  highlighter : Highlighter := {}
  /-- The revision of the text that the highlighting belongs to. -/
  revision : Option Nat := none
  deriving DecidableEq

/-- The lines of a view that are in its viewport. -/
def View.visibleLines (v : View) : List Nat :=
  List.range' v.topLine (min (v.topLine + v.height) v.document.lineCount - v.topLine)

/-- What the mode line says of a view: whether it was changed, its name, where the cursor is and
what is selected. -/
def View.status (v : View) (name : List Char) : List Char :=
  (if v.modified then "**" else "--").toList ++ " abcedit: ".toList ++ name ++
    (if v.editable then "" else " [read-only]").toList ++
    " L".toList ++ Text.ofNat (v.cursorLine + 1) ++
    " C".toList ++ Text.ofNat (v.document.displayColumn v.head + 1) ++
    " sel ".toList ++ Text.ofNat v.selection.start ++ "..".toList ++
    Text.ofNat v.selection.stop ++ [' ']

/-- The mode line: a status filled up with dashes, which are counted by the bytes that are missing,
or cut where the screen ends. -/
def modeLine (columns : Nat) (status : List Char) : List Char :=
  if Utf8.size status < columns then status ++ List.replicate (columns - Utf8.size status) '-'
  else fitting columns status

namespace Renderer

/-- A renderer that has drawn nothing. -/
def new (theme : Theme) (lineNumbers highlight : Bool) : Renderer where
  theme
  lineNumbers
  highlighter := { enabled := highlight }

/-- Forgets the highlighting. -/
def invalidate (r : Renderer) : Renderer :=
  { r with highlighter := r.highlighter.invalidateAll }

/-- Forgets the highlighting if it belongs to another revision than a view's. -/
def follow (r : Renderer) (v : View) : Renderer :=
  if r.revision = some v.revision then r else { r.invalidate with revision := some v.revision }

/-- Highlights the lines of a view that are in its viewport. -/
def highlight (r : Renderer) (v : View) : Renderer :=
  match v.visibleLines.getLast? with
  | some line => { r with highlighter := r.highlighter.advance v.document.lines line }
  | none => r

/-- The columns in front of a line: those of the longest number, three at least, and one more. -/
def gutter (r : Renderer) (lineCount : Nat) : Nat :=
  if r.lineNumbers then max (Text.ofNat lineCount).length 3 + 1 else 0

/-- A line of a view as it is drawn. -/
def row (r : Renderer) (columns : Nat) (v : View) (line : Nat) : Row :=
  let gutter := r.gutter v.document.lineCount
  let text := v.document.lines[line]?.getD []
  let spans := r.highlighter.lineSpans v.document.lines line
  let start := (v.document.lineStart? line).getD 0
  { number :=
      if r.lineNumbers then some (Text.padLeft (gutter - 1) (Text.ofNat (line + 1)) ++ [' '])
      else none
    cells := Cell.ofChars r.theme spans v.selection 0 start (fitting (columns - gutter) text) }

/-- Draws a view for a screen of some columns. -/
def draw (r : Renderer) (columns : Nat) (v : View) (name : List Char) : Frame × Renderer :=
  let r := (r.follow v).highlight v
  ({ rows := v.visibleLines.map (r.row columns v)
     modeLine := modeLine columns (v.status name) }, r)

/-- The text that draws a view, and the renderer afterwards. -/
def render (r : Renderer) (s : Screen) (v : View) (name : List Char) : List Char × Renderer :=
  let (frame, r) := r.draw s.columns v name
  (frame.print s, r)

end Renderer
end TuneEditor
