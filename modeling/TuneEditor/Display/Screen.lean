/-
# Text on a terminal

A terminal takes text with escapes in it that change how the text behind them
looks.  `Escape` lists the ones in use with the numbers that stand for them;
`Screen` says how wide a terminal is and whether it is to be sent any.
-/

import TuneEditor.Style.Basic
import TuneEditor.Text.Integer

namespace TuneEditor

/-- A change of how text looks. -/
inductive Escape
  /-- A foreground or a background colour, by its number in the palette. -/
  | foreground (index : Nat)
  | background (index : Nat)
  | bold
  | dim
  | italic
  | underline
  | reverse
  /-- Neither bold nor dim. -/
  | normalIntensity
  | noReverse
  /-- Back to how text looks by itself. -/
  | reset
  deriving DecidableEq, Repr

namespace Escape

/-- The numbers that stand for an escape. -/
def codes : Escape → List Nat
  | reset => [0]
  | bold => [1]
  | dim => [2]
  | italic => [3]
  | underline => [4]
  | reverse => [7]
  | normalIntensity => [22]
  | noReverse => [27]
  | foreground n => [38, 5, n]
  | background n => [48, 5, n]

/-- An escape as it is sent: its numbers between the introducer and the final letter. -/
def chars (e : Escape) : List Char :=
  ['\x1b', '['] ++ ((e.codes.map Text.ofNat).intersperse [';']).flatten ++ ['m']

end Escape

/-- The number of a colour in the palette; the terminal's own colour has none. -/
def Color.index? : Color → Option Nat
  | unset => none
  | black => some 0
  | red => some 1
  | green => some 2
  | yellow => some 3
  | blue => some 4
  | magenta => some 5
  | cyan => some 6
  | white => some 7
  | brightBlack => some 8
  | brightRed => some 9
  | brightGreen => some 10
  | brightYellow => some 11
  | brightBlue => some 12
  | brightMagenta => some 13
  | brightCyan => some 14
  | brightWhite => some 15

/-- The escapes that bring a style about. -/
def Style.escapes (s : Style) : List Escape :=
  (s.foreground.index?.map Escape.foreground).toList ++
    (s.background.index?.map Escape.background).toList ++
    (if s.bold then [.bold] else []) ++ (if s.italic then [.italic] else []) ++
    (if s.underline then [.underline] else []) ++ (if s.reverse then [.reverse] else [])

/-- A terminal: its columns, and whether it is sent escapes. -/
structure Screen where
  columns : Nat
  color : Bool
  deriving DecidableEq, Repr

namespace Screen

/-- An escape, if the screen takes any. -/
def escape (s : Screen) (e : Escape) : List Char :=
  if s.color then e.chars else []

/-- A text in a style, and the plain style behind it. -/
def styled (s : Screen) (style : Style) (text : List Char) : List Char :=
  if !s.color || style.isPlain then text
  else style.escapes.flatMap Escape.chars ++ text ++ Escape.chars .reset

/-- Turns dim text on or off. -/
def dim (s : Screen) (on : Bool) : List Char :=
  s.escape (if on then .dim else .normalIntensity)

/-- Turns reversed text on or off. -/
def reverse (s : Screen) (on : Bool) : List Char :=
  s.escape (if on then .reverse else .noReverse)

end Screen
end TuneEditor
