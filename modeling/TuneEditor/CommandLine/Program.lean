/-
# The program

The program opens a tune, selects what its caller asks for as a host would,
and prints the view; or it lists the tokens of the tune.  It reads a settings
file and the tune, and `respond` says what it answers to what was read on a
terminal that may tell how wide it is.
-/

import TuneEditor.CommandLine.Arguments
import TuneEditor.Display.Renderer
import TuneEditor.Settings
import TuneEditor.Text.Quoted

namespace TuneEditor
namespace CommandLine

/-- Why a file could not be read as text. -/
inductive ReadError
  | notFound
  | notADirectory
  | isADirectory
  | notUtf8
  /-- Anything else, in the words of the system. -/
  | other (description : String)
  deriving DecidableEq, Repr

/-- The cause in words. -/
def ReadError.message : ReadError → String
  | notFound => "No such file or directory (os error 2)"
  | notADirectory => "Not a directory (os error 20)"
  | isADirectory => "Is a directory (os error 21)"
  | notUtf8 => "stream did not contain valid UTF-8"
  | other description => description

/-- The text of a file. -/
abbrev Source :=
  Except ReadError (List Char)

/-- The text that some bytes are. -/
def decode (bytes : ByteArray) : Source :=
  match String.fromUTF8? bytes with
  | some s => .ok s.toList
  | none => .error .notUtf8

/-- What the program answers with. -/
structure Response where
  exitCode : Nat
  output : List Char := []
  errors : List Char := []
  deriving DecidableEq, Repr

/-- What the program says of itself. -/
def help : String :=
  "Highlight ABC notation and apply a selection

Usage: abcedit [OPTIONS] [FILE]

Arguments:
  [FILE]  ABC file to open (stdin when omitted)

Options:
      --select <SELECT>  Select FROM:TO (char offsets) as a host would
      --height <HEIGHT>  Viewport height in lines
      --no-color         Disable colors
      --line-numbers     Show line numbers
      --read-only        Open read-only
      --tokens           Print tokens instead of the highlighted view
      --config <CONFIG>  Config file (default ~/.abcedit.toml)
  -h, --help             Print help
  -V, --version          Print version
"

/-- The name and the version of the program. -/
def version : String :=
  "abcedit 0.1.0\n"

/-- The columns of a terminal that does not tell. -/
def defaultColumns : Nat := 80

/-- The answer to arguments that the program does not run on. -/
def Stop.response : Stop → Response
  | help => { exitCode := 0, output := CommandLine.help.toList }
  | version => { exitCode := 0, output := CommandLine.version.toList }
  | mistake m => { exitCode := 2, errors := "error: ".toList ++ m.message ++ ['\n'] }

/-- The name of a file: the last part of its path. -/
def fileName (path : List Char) : List Char :=
  (path.splitOn '/').getLast?.getD []

/-- What the view of a tune is called. -/
def Options.name (o : Options) : List Char :=
  (o.file.map fileName).getD "*stdin*".toList

/-- One line for a token of a text: its tag, where it is and what it is. -/
def tokenLine (d : Document) (t : Span) : List Char :=
  Text.padRight 10 t.tag.name.toList ++ ' ' :: Text.ofNat t.start ++ "..".toList ++
    Text.ofNat t.stop ++ ' ' :: Text.quoted ((d.slice? t.start t.stop).getD []) ++ ['\n']

/-- A line for every token of a text. -/
def tokenLines (text : List Char) : List Char :=
  (tokens text).flatMap (tokenLine (.ofChars text))

/-- The settings of a settings file, and under them those of the arguments. -/
def Options.over (o : Options) (s : Settings) : Settings :=
  { s with
    height := (o.height.map (max · 1)).getD s.height
    lineNumbers := o.lineNumbers || s.lineNumbers }

/-- A view of a text with the selection that the arguments ask for.  The focus that follows the
selection is waited for. -/
def openView (o : Options) (s : Settings) (text : List Char) : View :=
  let sync : Synchronizer View := { widget := .new text s.height, options := s.syncOptions }
  let sync := sync.reconcile 0 { text, selection := o.select, disabled := o.readOnly }
  (sync.pollDeferred s.focusDelay).1.widget

/-- The screen to draw on, as wide as the terminal says. -/
def Options.screen (o : Options) (terminal : Option Nat) : Screen :=
  ⟨terminal.getD defaultColumns, !o.noColor⟩

/-- What is printed for a text on a terminal that may tell its columns. -/
def printed (o : Options) (s : Settings) (terminal : Option Nat) (text : List Char) : List Char :=
  if o.tokens then tokenLines text
  else
    ((Renderer.new s.theme s.lineNumbers s.highlight).render (o.screen terminal)
      (openView o s text) o.name).1

/-- Why the program fails once it runs. -/
inductive Failure
  | read (e : ReadError)
  | settings (e : Settings.Error)
  deriving DecidableEq, Repr

/-- The cause in words. -/
def Failure.message : Failure → String
  | read e => "I/O error: " ++ e.message
  | settings e => e.message

/-- The settings that the program runs with.  A settings file that the arguments name has to be in
order; another one counts if it is. -/
def Options.settings (o : Options) (file : Option Source) : Except Failure Settings :=
  match file with
  | none => .ok {}
  | some (.error e) => if o.config.isSome then .error (.read e) else .ok {}
  | some (.ok text) =>
    match (Settings.ofText text).1 with
    | .ok s => .ok s
    | .error e => if o.config.isSome then .error (.settings e) else .ok {}

/-- What the program prints for a settings file, if there is one, and a tune, on a terminal that
may tell its columns. -/
def run (o : Options) (file : Option Source) (tune : Source) (terminal : Option Nat) :
    Except Failure (List Char) := do
  let s ← o.settings file
  match tune with
  | .error e => .error (.read e)
  | .ok text => .ok (printed o (o.over s) terminal text)

/-- What the program answers to a settings file, if there is one, and a tune, on a terminal that may
tell its columns. -/
def respond (o : Options) (file : Option Source) (tune : Source) (terminal : Option Nat := none) :
    Response :=
  match run o file tune terminal with
  | .ok output => { exitCode := 0, output }
  | .error e => { exitCode := 1, errors := ("Error: " ++ e.message ++ "\n").toList }

end CommandLine
end TuneEditor
