/-
# How text looks

A style is two colours and four attributes.  Styles are laid over each other:
the upper one's colours win where they are set, and attributes add up.

A style is described in words, such as `bright-blue bold on-black`.  Each word
is read by itself, an attribute, a background or a foreground colour, and the
words are obeyed from left to right, so the last colour of each kind stays.
-/

import TuneEditor.Style.Color

namespace TuneEditor

/-- Colours and attributes of text. -/
structure Style where
  foreground : Color := .unset
  background : Color := .unset
  bold : Bool := false
  italic : Bool := false
  underline : Bool := false
  /-- Foreground and background change places. -/
  reverse : Bool := false
  deriving DecidableEq, Repr, Inhabited

namespace Style

/-- The style that changes nothing. -/
def plain : Style := {}

/-- Whether a style changes nothing. -/
def isPlain (s : Style) : Bool :=
  s == plain

/-- A colour over another. -/
def overColor (lower upper : Color) : Color :=
  if upper = .unset then lower else upper

/-- A style under another. -/
def overlay (lower upper : Style) : Style where
  foreground := overColor lower.foreground upper.foreground
  background := overColor lower.background upper.background
  bold := lower.bold || upper.bold
  italic := lower.italic || upper.italic
  underline := lower.underline || upper.underline
  reverse := lower.reverse || upper.reverse

/-- A word of a description. -/
inductive Word
  | bold
  | italic
  | underline
  | reverse
  | background (c : Color)
  | foreground (c : Color)
  deriving DecidableEq, Repr

namespace Word

/-- The word that a text in small letters means.  What follows `on-` is a background. -/
def ofLower? (cs : List Char) : Option Word :=
  if cs == "bold".toList then some bold
  else if cs == "italic".toList then some italic
  else if cs == "underline".toList then some underline
  else if cs == "reverse".toList then some reverse
  else
    match cs with
    | 'o' :: 'n' :: '-' :: name => (Color.ofName? name).map background
    | name => (Color.ofName? name).map foreground

/-- The word that a text means; the case of ASCII letters does not matter. -/
def ofText? (cs : List Char) : Option Word :=
  ofLower? (Text.lower cs)

/-- A style with one more word obeyed. -/
def obey (s : Style) : Word → Style
  | bold => { s with bold := true }
  | italic => { s with italic := true }
  | underline => { s with underline := true }
  | reverse => { s with reverse := true }
  | background c => { s with background := c }
  | foreground c => { s with foreground := c }

end Word

/-- The style that words describe. -/
def ofWords (ws : List Word) : Style :=
  ws.foldl Word.obey plain

/-- The style that a text describes, if each of its words means something. -/
def ofText? (cs : List Char) : Option Style :=
  ((Text.words cs).mapM Word.ofText?).map ofWords

end Style
end TuneEditor
