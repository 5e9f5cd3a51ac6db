/-
# The lexical classes of tune notation

A tag names a class of text in a tune.  It decides how the text is coloured
and says nothing about the music.
-/

import TuneEditor.Text.Blank

namespace TuneEditor

/-- A lexical class. -/
inductive Tag
  /-- The key of a header field, such as `X:`. -/
  | header
  /-- A note letter with its octave marks. -/
  | note
  /-- A sharp, flat or natural sign, or two. -/
  | accidental
  /-- A length, such as `2` or `/4`. -/
  | duration
  | rest
  /-- A chord symbol or annotation in quotation marks. -/
  | chord
  /-- A slur or a tie. -/
  | slur
  /-- A bar line or a repeat bracket. -/
  | bar
  /-- From a percent sign to the end of the line. -/
  | comment
  /-- Anything else. -/
  | plain
  deriving DecidableEq, Repr

namespace Tag

/-- Every tag. -/
def all : List Tag :=
  [header, note, accidental, duration, rest, chord, slur, bar, comment, plain]

/-- No tag is left out of the list that names are looked up in. -/
theorem mem_all (t : Tag) : t ∈ all := by
  cases t <;> decide

/-- The name that a reader sees and a theme uses. -/
def name : Tag → String
  | header => "Header"
  | note => "Note"
  | accidental => "Accidental"
  | duration => "Duration"
  | rest => "Rest"
  | chord => "Chord"
  | slur => "Slur"
  | bar => "Bar"
  | comment => "Comment"
  | plain => "Plain"

/-- Whether a text names a tag; the case of ASCII letters does not matter. -/
def isNamed (t : Tag) (cs : List Char) : Bool :=
  Text.lower t.name.toList == Text.lower cs

/-- The tag that a text names. -/
def ofName? (cs : List Char) : Option Tag :=
  all.find? (·.isNamed cs)

end Tag
end TuneEditor
