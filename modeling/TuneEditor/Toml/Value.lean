/-
# Values of a settings file

A settings file is a table: entries from keys to values, in the order of the
keys.  `Value.chars` writes a value on one line as far as its strings allow.

A string is written in the first of these forms that can hold it.

| form | what it cannot hold |
|---|---|
| `"…"` | quotation marks, backslashes, newlines, controls |
| `'…'` | apostrophes, newlines, controls |
| three quotation marks | backslashes, controls, three quotation marks in a row |
| three apostrophes | controls, three apostrophes in a row |
| with escapes | nothing; over several lines if there is a newline |

The tab is no control in this table, but with escapes around it is written as one.
-/

import TuneEditor.Text.Binary64
import TuneEditor.Toml.Moment

namespace TuneEditor
namespace Toml

/-- A value. -/
inductive Value
  | string (cs : List Char)
  | integer (n : Int)
  | float (x : Binary64)
  | boolean (b : Bool)
  | moment (m : Moment)
  | array (vs : List Value)
  | table (entries : List (List Char × Value))

/-- Entries in the order of their keys. -/
abbrev Table :=
  List (List Char × Value)

/-- The value of a key. -/
def Table.get? (t : Table) (key : List Char) : Option Value :=
  (t.find? (·.1 == key)).map Prod.snd

/-- The length of the longest run of a character. -/
def longestRun (q : Char) (cs : List Char) : Nat :=
  (cs.foldl (fun (best, now) c => if c == q then (max best (now + 1), now + 1) else (best, 0))
    (0, 0)).1

/-- Controls that only an escape can write: all but the tab and the newline. -/
def needsEscape (c : Char) : Bool :=
  (c.toNat < 0x20 && c != '\t' && c != '\n') || c.toNat == 0x7F

/-- A character by its code point in four digits. -/
def unicodeEscape (c : Char) : List Char :=
  let ds := (Nat.toDigits 16 c.toNat).map Char.toUpper
  ['\\', 'u'] ++ List.replicate (4 - ds.length) '0' ++ ds

/-- A text with escapes.  Over several lines newlines stand for themselves, and so do two quotation
marks in a row; `quotes` counts those in front of the text. -/
def escaped (multiline : Bool) (quotes : Nat) : List Char → List Char
  | [] => []
  | '"' :: cs =>
    if multiline && quotes < 2 then '"' :: escaped multiline (quotes + 1) cs
    else '\\' :: '"' :: escaped multiline 0 cs
  | '\n' :: cs =>
    if multiline then '\n' :: escaped multiline 0 cs else '\\' :: 'n' :: escaped multiline 0 cs
  | '\x08' :: cs => '\\' :: 'b' :: escaped multiline 0 cs
  | '\t' :: cs => '\\' :: 't' :: escaped multiline 0 cs
  | '\x0c' :: cs => '\\' :: 'f' :: escaped multiline 0 cs
  | '\x0d' :: cs => '\\' :: 'r' :: escaped multiline 0 cs
  | '\\' :: cs => '\\' :: '\\' :: escaped multiline 0 cs
  | c :: cs =>
    (if needsEscape c then unicodeEscape c else [c]) ++ escaped multiline 0 cs

/-- A string as a value. -/
def stringChars (cs : List Char) : List Char :=
  let controls := cs.any needsEscape
  let newline := cs.any (· == '\n')
  let backslash := cs.any (· == '\\')
  let opening := if newline then ['\n'] else []
  let basic := "\"\"\"".toList
  let literal := "'''".toList
  if !controls && !newline && !backslash && !cs.any (· == '"') then
    ['"'] ++ escaped false 0 cs ++ ['"']
  else if !controls && !newline && !cs.any (· == '\'') then ['\''] ++ cs ++ ['\'']
  else if !controls && !backslash && longestRun '"' cs ≤ 2 then
    basic ++ opening ++ escaped true 0 cs ++ basic
  else if !controls && longestRun '\'' cs ≤ 2 then literal ++ opening ++ cs ++ literal
  else if newline then basic ++ opening ++ escaped true 0 cs ++ basic
  else ['"'] ++ escaped false 0 cs ++ ['"']

/-- Characters of a key that needs no quotation marks. -/
def isBareKeyChar (c : Char) : Bool :=
  c.isAlphanum || c == '-' || c == '_'

/-- A key as it stands in a table on one line. -/
def keyChars (cs : List Char) : List Char :=
  let controls := cs.any fun c => needsEscape c || c == '\n'
  if !cs.isEmpty && cs.all isBareKeyChar then cs
  else if !controls && !cs.any (· == '\\') && !cs.any (· == '"') then
    ['"'] ++ escaped false 0 cs ++ ['"']
  else if !controls && !cs.any (· == '\'') then ['\''] ++ cs ++ ['\'']
  else ['"'] ++ escaped false 0 cs ++ ['"']

/-- Parts of a list with commas between them. -/
def commaSeparated (parts : List (List Char)) : List Char :=
  ", ".toList.intercalate parts

/-- The key under which a moment stands in a table of its own. -/
def momentKey : List Char :=
  "$__toml_private_datetime".toList

/-- A table on one line, from its entries in writing. -/
def braced (entries : List (List Char)) : List Char :=
  if entries.isEmpty then ['\x7b', '\x7d']
  else ['\x7b', ' '] ++ commaSeparated entries ++ [' ', '\x7d']

/-- An entry of a table on one line. -/
def entryChars (key value : List Char) : List Char :=
  keyChars key ++ " = ".toList ++ value

mutual

/-- A value in writing. -/
def Value.chars : Value → List Char
  | .string cs => stringChars cs
  | .integer n => Text.ofInt n
  | .float x => x.text
  | .boolean b => (if b then "true" else "false").toList
  | .moment m => braced [entryChars momentKey (['"'] ++ m.chars ++ ['"'])]
  | .array vs => ['['] ++ commaSeparated (arrayChars vs) ++ [']']
  | .table entries => braced (tableChars entries)

/-- The values of an array in writing. -/
def arrayChars : List Value → List (List Char)
  | [] => []
  | v :: vs => v.chars :: arrayChars vs

/-- The entries of a table in writing. -/
def tableChars : List (List Char × Value) → List (List Char)
  | [] => []
  | (key, v) :: entries => entryChars key v.chars :: tableChars entries

end

end Toml
end TuneEditor
