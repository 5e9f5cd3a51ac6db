/-
# The arguments of the program

Arguments are read from left to right.  A flag is a word of its own.  An
option takes a value, behind `=` or in the next argument; the value is not
looked at before the next flag, option or file, or the end, and a mistake in
it is reported then.  A word without hyphens is the file to open, and behind
`--` everything is.

| argument | value |
|---|---|
| `--select` | `FROM:TO`, two numbers; it may begin with a hyphen |
| `--height` | a number |
| `--config` | the path of a settings file |
| `--no-color`, `--line-numbers`, `--read-only`, `--tokens` | |
| `-h`, `--help`, `-V`, `--version` | |
-/

import TuneEditor.Selection
import TuneEditor.Text.Blank
import TuneEditor.Text.Integer

namespace TuneEditor
namespace CommandLine

/-- What the arguments ask for. -/
structure Options where
  file : Option (List Char) := none
  select : Option SelectionRequest := none
  height : Option Nat := none
  noColor : Bool := false
  lineNumbers : Bool := false
  readOnly : Bool := false
  tokens : Bool := false
  config : Option (List Char) := none
  deriving DecidableEq, Repr

/-- Arguments without a value. -/
inductive Flag
  | noColor
  | lineNumbers
  | readOnly
  | tokens
  deriving DecidableEq, Repr

/-- Arguments with a value. -/
inductive Slot
  | file
  | select
  | height
  | config
  deriving DecidableEq, Repr

/-- What an argument with two hyphens may name. -/
inductive Name
  | flag (f : Flag)
  | slot (s : Slot)
  | help
  | version
  deriving DecidableEq, Repr

/-- What is named by a word behind two hyphens. -/
def Name.ofLong? (word : List Char) : Option Name :=
  [("no-color", flag .noColor), ("line-numbers", flag .lineNumbers),
    ("read-only", flag .readOnly), ("tokens", flag .tokens), ("select", slot .select),
    ("height", slot .height), ("config", slot .config), ("help", help),
    ("version", version)].find? (fun entry => entry.1.toList == word) |>.map Prod.snd

/-- A flag as messages show it. -/
def Flag.shown : Flag → String
  | noColor => "--no-color"
  | lineNumbers => "--line-numbers"
  | readOnly => "--read-only"
  | tokens => "--tokens"

/-- An argument with its value as messages show it. -/
def Slot.shown : Slot → String
  | file => "[FILE]"
  | select => "--select <SELECT>"
  | height => "--height <HEIGHT>"
  | config => "--config <CONFIG>"

/-- What a name is called in messages that do not show a value. -/
def Name.shown : Name → String
  | flag f => f.shown
  | slot s => s.shown
  | help => "--help"
  | version => "--version"

/-- Why a text is no request for a selection. -/
inductive RangeError
  /-- There is no colon. -/
  | noColon (text : List Char)
  | badStart (e : Text.IntegerError)
  | badStop (e : Text.IntegerError)
  deriving DecidableEq, Repr

/-- The cause in words. -/
def RangeError.message : RangeError → List Char
  | noColon text => "expected FROM:TO, got ".toList ++ text
  | badStart e => ("bad FROM: " ++ e.message).toList
  | badStop e => ("bad TO: " ++ e.message).toList

/-- Reads two numbers with a colon between them; blanks around a number do not count. -/
def readRange (cs : List Char) : Except RangeError SelectionRequest :=
  match cs.dropWhile (· != ':') with
  | [] => .error (.noColon cs)
  | _ :: stop =>
    match Text.readOffset (Text.trim (cs.takeWhile (· != ':'))) with
    | .error e => .error (.badStart e)
    | .ok a =>
      match Text.readOffset (Text.trim stop) with
      | .error e => .error (.badStop e)
      | .ok b => .ok ⟨a, b⟩

/-- A mistake in the arguments. -/
inductive Mistake
  | unexpectedArgument (arg : List Char)
  | unexpectedValue (value : List Char) (n : Name)
  | missingValue (s : Slot)
  | invalidValue (value : List Char) (s : Slot) (cause : List Char)
  | repeatedFlag (f : Flag)
  | repeatedSlot (s : Slot)
  deriving DecidableEq, Repr

/-- The mistake in words. -/
def Mistake.message : Mistake → List Char
  | unexpectedArgument arg => "unexpected argument '".toList ++ arg ++ "' found".toList
  | unexpectedValue value n =>
    "unexpected value '".toList ++ value ++
      ("' for '" ++ n.shown ++ "' found; no more were expected").toList
  | missingValue s => ("a value is required for '" ++ s.shown ++ "' but none was supplied").toList
  | invalidValue value s cause =>
    "invalid value '".toList ++ value ++ ("' for '" ++ s.shown ++ "': ").toList ++ cause
  | repeatedFlag f => ("the argument '" ++ f.shown ++ "' cannot be used multiple times").toList
  | repeatedSlot s => ("the argument '" ++ s.shown ++ "' cannot be used multiple times").toList

/-- Why the program does not run on: it was asked about itself, or wrongly. -/
inductive Stop
  | help
  | version
  | mistake (m : Mistake)
  deriving DecidableEq, Repr

/-- What is known while arguments are read. -/
structure Reading where
  options : Options := {}
  /-- An argument whose value was not looked at, or has still to come. -/
  pending : Option (Slot × Option (List Char)) := none
  /-- Everything that follows is a file. -/
  filesOnly : Bool := false
  deriving DecidableEq, Repr

namespace Reading

/-- Sets a flag. -/
def setFlag (r : Reading) (f : Flag) : Except Stop Reading :=
  let o := r.options
  let put (given : Bool) (o : Options) : Except Stop Reading :=
    if given then .error (.mistake (.repeatedFlag f)) else .ok { r with options := o }
  match f with
  | .noColor => put o.noColor { o with noColor := true }
  | .lineNumbers => put o.lineNumbers { o with lineNumbers := true }
  | .readOnly => put o.readOnly { o with readOnly := true }
  | .tokens => put o.tokens { o with tokens := true }

/-- Takes a value in. -/
def setSlot (r : Reading) (s : Slot) (value : List Char) : Except Stop Reading :=
  let o := r.options
  let put (given : Bool) (o : Except Mistake Options) : Except Stop Reading :=
    if given then .error (.mistake (.repeatedSlot s))
    else
      match o with
      | .ok o => .ok { r with options := o }
      | .error m => .error (.mistake m)
  match s with
  | .file =>
    put o.file.isSome
      (if value.isEmpty then .error (.missingValue s) else .ok { o with file := some value })
  | .config =>
    put o.config.isSome
      (if value.isEmpty then .error (.missingValue s) else .ok { o with config := some value })
  | .select =>
    put o.select.isSome
      (match readRange value with
        | .ok range => .ok { o with select := some range }
        | .error e => .error (.invalidValue value s e.message))
  | .height =>
    put o.height.isSome
      (match Text.readCount value with
        | .ok n => .ok { o with height := some n }
        | .error e => .error (.invalidValue value s e.message.toList))

/-- Looks at the value that is pending. -/
def settle (r : Reading) : Except Stop Reading :=
  match r.pending with
  | none => .ok r
  | some (s, none) => .error (.mistake (.missingValue s))
  | some (s, some value) => { r with pending := none }.setSlot s value

/-- Reads an argument that names something, with the value behind its `=`. -/
def readName (r : Reading) (n : Name) (value : Option (List Char)) : Except Stop Reading :=
  match n, value with
  | .slot s, some value => do
    let r ← r.settle
    r.setSlot s value
  | .slot s, none => do
    let r ← r.settle
    .ok { r with pending := some (s, none) }
  | n, some value => .error (.mistake (.unexpectedValue value n))
  | .flag f, none => do
    let r ← r.settle
    r.setFlag f
  | .help, none => do
    let _ ← r.settle
    .error .help
  | .version, none => do
    let _ ← r.settle
    .error .version

/-- Reads an argument behind two hyphens. -/
def readLong (r : Reading) (body : List Char) : Except Stop Reading :=
  let word := body.takeWhile (· != '=')
  let value :=
    match body.dropWhile (· != '=') with
    | [] => none
    | _ :: value => some value
  match Name.ofLong? word with
  | some n => r.readName n value
  | none => .error (.mistake (.unexpectedArgument ('-' :: '-' :: word)))

/-- Reads an argument behind one hyphen, which begins with a letter of its own. -/
def readShort (r : Reading) (c : Char) : Except Stop Reading :=
  if c = 'h' then r.readName .help none
  else if c = 'V' then r.readName .version none
  else .error (.mistake (.unexpectedArgument ['-', c]))

/-- Takes an argument as the value that was to come. -/
def readValue (r : Reading) (s : Slot) (arg : List Char) : Reading :=
  { r with pending := some (s, some arg) }

/-- Takes an argument as the file. -/
def readFile (r : Reading) (arg : List Char) : Except Stop Reading :=
  let given := r.options.file.isSome || (r.pending.map Prod.fst) == some .file
  if given then .error (.mistake (.unexpectedArgument arg))
  else do
    let r ← r.settle
    .ok (r.readValue .file arg)

/-- Reads an argument. -/
def readArgument (r : Reading) (arg : List Char) : Except Stop Reading :=
  if r.filesOnly then r.readFile arg
  else
    match r.pending, arg with
    | some (.select, none), arg => .ok (r.readValue .select arg)
    | _, ['-', '-'] => .ok { r with filesOnly := true }
    | _, '-' :: '-' :: body => r.readLong body
    | _, '-' :: c :: _ => r.readShort c
    | some (s, none), arg => .ok (r.readValue s arg)
    | _, arg => r.readFile arg

end Reading

/-- Reads the arguments of the program. -/
def readArguments (args : List (List Char)) : Except Stop Options := do
  let r ← args.foldlM Reading.readArgument {}
  let r ← r.settle
  .ok r.options

end CommandLine
end TuneEditor
