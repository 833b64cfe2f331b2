import RequestQuery.CommandLine.Environment
import RequestQuery.CommandLine.Run

/-!
# The program

Compiles one set of request parameters and prints the query. All decisions are made by
`CommandLine.run`; what is left to do here is to read the environment and files, and to print.
-/

namespace RequestQuery.CommandLine

/-- The contents of a file, if it can be read. -/
def contents? (path : String) : IO (Option ByteArray) := do
  try
    return some (← IO.FS.readBinFile path)
  catch _ =>
    return none

/-- The first environment file in the current directory or one of the `levels` directories above it. -/
def environmentText? : Nat → String → IO (Option String)
  | 0, _ => return none
  | levels + 1, directory => do
    match ← contents? (directory ++ ".env") with
    | some bytes => return String.fromUTF8? bytes
    | none => environmentText? levels (directory ++ "../")

/-- The settings file that the environment names. -/
def presetPath : IO (Option String) := do
  let outer ← IO.getEnv configVariable
  let text ← environmentText? 64 ""
  return EnvironmentFile.lookup (fun name => if name = configVariable then outer else none)
    (text.getD "") configVariable

/-- Print an outcome and give its exit code. -/
def report : Outcome → IO UInt32
  | .output text => do
    IO.print text
    return 0
  | .failure f => do
    IO.eprintln ("Error: " ++ f.message)
    match f.cause? with
    | some e => IO.eprintln ("\nCaused by:\n    " ++ e.message)
    | none => pure ()
    return 1
  | .usage => do
    IO.eprintln ("error: the arguments are not well formed\n\n" ++ usageText)
    return 2

end RequestQuery.CommandLine

open RequestQuery.CommandLine in
/-- Run the program. -/
def main (words : List String) : IO UInt32 := do
  let preset ← presetPath
  let contents ←
    match settingsFile? preset words with
    | some path => contents? path
    | none => pure none
  report (run preset (fun _ => contents) words)
