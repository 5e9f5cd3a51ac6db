/-
# Text between quotation marks

A quoted text shows on one line what a text holds: quotation marks and
backslashes are written with a backslash, common controls by a letter, and
whatever has no glyph of its own by its code point.
-/

import TuneEditor.Text.Printable

namespace TuneEditor
namespace Text

/-- A character as it stands between quotation marks. -/
def escape (c : Char) : List Char :=
  match c with
  | '\x00' => ['\\', '0']
  | '\t' => ['\\', 't']
  | '\n' => ['\\', 'n']
  | '\x0d' => ['\\', 'r']
  | '"' => ['\\', '"']
  | '\\' => ['\\', '\\']
  | c =>
    if isPrintable c then [c]
    else ['\\', 'u', '\x7b'] ++ Nat.toDigits 16 c.toNat ++ ['\x7d']

/-- A text between quotation marks. -/
def quoted (cs : List Char) : List Char :=
  '"' :: cs.flatMap escape ++ ['"']

end Text
end TuneEditor
