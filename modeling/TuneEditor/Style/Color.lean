/-
# The colours of a terminal

Sixteen colours, and `unset` for the terminal's own.  A colour is named in
small letters with a hyphen (`bright-blue`); capitals and underscores are
accepted in a name, and three names stand for the bright black.
-/

import TuneEditor.Text.Blank

namespace TuneEditor

/-- A colour of the terminal's palette. -/
inductive Color
  /-- The colour that the terminal has by itself. -/
  | unset
  | black
  | red
  | green
  | yellow
  | blue
  | magenta
  | cyan
  | white
  | brightBlack
  | brightRed
  | brightGreen
  | brightYellow
  | brightBlue
  | brightMagenta
  | brightCyan
  | brightWhite
  deriving DecidableEq, Repr, Inhabited

namespace Color

/-- The names of the colours, as they are written in small letters with hyphens. -/
def names : List (String × Color) :=
  [("default", unset), ("black", black), ("red", red), ("green", green), ("yellow", yellow),
    ("blue", blue), ("magenta", magenta), ("cyan", cyan), ("white", white),
    ("bright-black", brightBlack), ("gray", brightBlack), ("grey", brightBlack),
    ("bright-red", brightRed), ("bright-green", brightGreen), ("bright-yellow", brightYellow),
    ("bright-blue", brightBlue), ("bright-magenta", brightMagenta), ("bright-cyan", brightCyan),
    ("bright-white", brightWhite)]

/-- A hyphen for an underscore. -/
def hyphenated (c : Char) : Char :=
  if c == '_' then '-' else c

/-- The colour that a text names. -/
def ofName? (cs : List Char) : Option Color :=
  (names.find? fun entry => entry.1.toList == (Text.lower cs).map hyphenated).map Prod.snd

end Color
end TuneEditor
