/-
# Settings

The settings of the editor come from a file with two tables.

| table | key | value |
|---|---|---|
| `editor` | `scroll-margin` | a number of lines from 0 to 50 |
| | `focus-delay-ms` | a number of milliseconds from 0 to 1000 |
| | `line-numbers`, `highlight` | a boolean |
| | `height` | a number of lines from 1 to 500 |
| `theme` | the name of a tag, or `selection` | the description of a style |

A number outside its bounds is moved to the nearer one.  An entry that means
nothing is passed over with a warning, and the other entries count.  Entries
of the theme are taken in the order of their keys; keys that differ only in
the case of letters name one tag, and the last counts.
-/

import TuneEditor.Style.Theme
import TuneEditor.Synchronizer
import TuneEditor.Toml.File

namespace TuneEditor

/-- The settings. -/
structure Settings where
  /-- Lines to keep in view around a selection. -/
  scrollMargin : Nat := 5
  /-- Milliseconds from a selection to the focus that follows it. -/
  focusDelay : Nat := 10
  lineNumbers : Bool := false
  highlight : Bool := true
  /-- The height of the viewport. -/
  height : Nat := 24
  theme : Theme := {}
  deriving DecidableEq

namespace Settings

/-- Why a text gives no settings. -/
inductive Error
  /-- It has not the form of a settings file. -/
  | malformed
  /-- The value of a key that names a table is something else. -/
  | notATable (key : String)
  deriving DecidableEq, Repr

/-- The cause in words, where it is this program's to give. -/
def Error.message : Error → String
  | malformed => "TOML error"
  | notATable key => "Config error: [" ++ key ++ "] must be a table"

/-- An entry that was passed over. -/
inductive Warning
  /-- The value is not of the kind that the key asks for. -/
  | wrongKind (key : String) (kind : String) (value : Toml.Value)
  /-- The description of a style is not a string. -/
  | notAString (key : List Char)
  | unknownStyle (key description : List Char)
  | unknownKey (key : List Char)

/-- The warning in words. -/
def Warning.message : Warning → List Char
  | wrongKind key kind value =>
    ("Config value " ++ key ++ " should be " ++ kind ++ ", got ").toList ++ value.chars
  | notAString key => "Theme entry ".toList ++ key ++ " is not a string".toList
  | unknownStyle key description =>
    "Unknown style for ".toList ++ key ++ ": ".toList ++ description
  | unknownKey key => "Unknown theme key: ".toList ++ key

/-- A number moved between two bounds. -/
def clampTo (least most : Nat) (n : Int) : Nat :=
  min most (max least n.toNat)

/-- What an entry has to say about a setting: the value it gives, or a warning. -/
structure Entry (α : Type) where
  value : Option α := none
  warnings : List Warning := []

/-- The entry of a whole number. -/
def integerEntry (t : Toml.Table) (key : String) : Entry Int :=
  match t.get? key.toList with
  | none => {}
  | some (.integer n) => { value := some n }
  | some v => { warnings := [.wrongKind key "an integer" v] }

/-- The entry of a boolean. -/
def booleanEntry (t : Toml.Table) (key : String) : Entry Bool :=
  match t.get? key.toList with
  | none => {}
  | some (.boolean b) => { value := some b }
  | some v => { warnings := [.wrongKind key "a boolean" v] }

/-- The settings of the table `editor`, over others. -/
def applyEditor (s : Settings) (t : Toml.Table) : Settings × List Warning :=
  let margin := integerEntry t "scroll-margin"
  let delay := integerEntry t "focus-delay-ms"
  let numbers := booleanEntry t "line-numbers"
  let highlight := booleanEntry t "highlight"
  let height := integerEntry t "height"
  ({ s with
      scrollMargin := (margin.value.map (clampTo 0 50)).getD s.scrollMargin
      focusDelay := (delay.value.map (clampTo 0 1000)).getD s.focusDelay
      lineNumbers := numbers.value.getD s.lineNumbers
      highlight := highlight.value.getD s.highlight
      height := (height.value.map (clampTo 1 500)).getD s.height },
    margin.warnings ++ delay.warnings ++ numbers.warnings ++ highlight.warnings ++
      height.warnings)

/-- A theme with one more entry. -/
def applyStyle (t : Theme) (entry : List Char × Toml.Value) : Theme × List Warning :=
  match entry with
  | (key, .string description) =>
    match Style.ofText? description with
    | none => (t, [.unknownStyle key description])
    | some style =>
      if Text.lower key = "selection".toList then ({ t with selection := style }, [])
      else
        match Tag.ofName? key with
        | some tag => (t.setStyle tag style, [])
        | none => (t, [.unknownKey key])
  | (key, _) => (t, [.notAString key])

/-- A theme with the entries of the table `theme`. -/
def applyStyles (t : Theme) : Toml.Table → Theme × List Warning
  | [] => (t, [])
  | entry :: entries =>
    let (t, warnings) := applyStyle t entry
    let (t, more) := applyStyles t entries
    (t, warnings ++ more)

/-- The table that a key names, if there is such a key. -/
def section? (t : Toml.Table) (key : String) : Except Error (Option Toml.Table) :=
  match t.get? key.toList with
  | none => .ok none
  | some (.table entries) => .ok (some entries)
  | some _ => .error (.notATable key)

/-- The settings that a table gives, and the warnings.  The table `editor` comes first, so its
warnings are there even if `theme` is no table. -/
def ofTable (t : Toml.Table) : Except Error Settings × List Warning :=
  match section? t "editor" with
  | .error e => (.error e, [])
  | .ok editor =>
    let (s, warnings) := (editor.map (applyEditor {})).getD ({}, [])
    match section? t "theme" with
    | .error e => (.error e, warnings)
    | .ok theme =>
      let (styles, more) := (theme.map (applyStyles s.theme)).getD (s.theme, [])
      (.ok { s with theme := styles }, warnings ++ more)

/-- The settings that a text gives, and the warnings. -/
def ofText (cs : List Char) : Except Error Settings × List Warning :=
  match Toml.read? cs with
  | none => (.error .malformed, [])
  | some t => ofTable t

/-- What the settings say to a synchronizer. -/
def syncOptions (s : Settings) : SyncOptions where
  scrollMargin := s.scrollMargin
  focusDelay := s.focusDelay

end Settings
end TuneEditor
