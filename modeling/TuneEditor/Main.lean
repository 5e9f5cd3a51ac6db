/-
# Running the program

Arguments, files, the environment and the two streams, and nothing else: what is read
goes to `respond`, and what that answers is written.
-/

import TuneEditor.CommandLine.Program

namespace TuneEditor
namespace CommandLine

/-- The text of a file. -/
def readSource (path : List Char) : IO Source := do
  try
    return decode (← IO.FS.readBinFile (String.ofList path))
  catch
    | .noFileOrDirectory .. => return .error .notFound
    | .inappropriateType _ code _ =>
      return .error (if code = 21 then .isADirectory else .notADirectory)
    | e => return .error (.other (toString e))

/-- The path of the settings file in the home of the user. -/
def homeSettings? : IO (Option (List Char)) := do
  return (← IO.getEnv "HOME").map fun home => home.toList ++ "/.abcedit.toml".toList

/-- The columns of the terminal, if the environment tells them. -/
def terminalColumns? : IO (Option Nat) := do
  let some columns ← IO.getEnv "COLUMNS" | return none
  return (Text.readCount columns.toList).toOption.filter (0 < ·)

/-- Writes an answer. -/
def Response.write (r : Response) : IO UInt32 := do
  IO.print (String.ofList r.output)
  IO.eprint (String.ofList r.errors)
  return r.exitCode.toUInt32

end CommandLine
end TuneEditor

open TuneEditor.CommandLine in
/-- Reads what the arguments name and writes the answer. -/
def main (args : List String) : IO UInt32 := do
  match readArguments (args.map String.toList) with
  | .error stop => stop.response.write
  | .ok o =>
    let file ← match o.config with
      | some path => pure (some (← readSource path))
      | none => (← homeSettings?).mapM readSource
    let tune ← match o.file with
      | some path => readSource path
      | none => decode <$> (← IO.getStdin).readBinToEnd
    (respond o file tune (← terminalColumns?)).write
