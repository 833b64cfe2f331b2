import RequestQuery.CommandLine.Arguments
import RequestQuery.Json.Writer
import RequestQuery.Settings.File

/-!
# Runs of the program

* `Outcome` — what a run leaves behind.
* `Arguments.settingsPath` — the settings file: the one in the arguments, or the one in the environment.
* `Arguments.query` — the query that the input asks for under given settings.
* `run` — the outcome for a list of words.
-/

namespace RequestQuery.CommandLine

/-- Why a run gives no query. -/
inductive Failure where
  | settingsFile (e : SettingsFileError)
  | settings (e : QueryError)
  | input
  | compile (e : QueryError)
deriving DecidableEq

/-- What was tried in vain. -/
def Failure.message : Failure → String
  | .settingsFile e => e.message
  | .settings _ => "invalid compiler settings"
  | .input => "INPUT must be a JSON object of parameters"
  | .compile _ => "failed to compile parameters"

/-- What is wrong underneath, if more is known. -/
def Failure.cause? : Failure → Option QueryError
  | .settingsFile e => e.cause?
  | .settings e => some e
  | .input => none
  | .compile e => some e

/-- What a run leaves behind. -/
inductive Outcome where
  /-- Text for the standard output. -/
  | output (text : String)
  | failure (f : Failure)
  /-- The words are not well formed. -/
  | usage
deriving DecidableEq

/-- The name of the variable that names the settings file. -/
def configVariable : String := "SIEVE_CONFIG"

/-- How the program is called. -/
def usageText : String :=
  "Usage: sieve [OPTIONS] <INPUT>"

/-- The answer to a question for help. -/
def helpText : String :=
  "Compile request parameters into a query descriptor\n\n" ++ usageText ++ "\n\n" ++
  "Arguments:\n  <INPUT>  Request parameters, e.g. \"page=2&price=<>10|20&sort=-id\"\n\n" ++
  "Options:\n" ++
  "  -c, --config <CONFIG>  Compiler settings file (TOML, or JSON when it ends in .json)" ++
  " [env: " ++ configVariable ++ "=]\n" ++
  "      --json             Treat INPUT as a JSON object of parameters instead of a query string\n" ++
  "      --pretty           Pretty-print the descriptor\n" ++
  "  -h, --help             Print help\n" ++
  "  -V, --version          Print version\n"

/-- The answer to a question for the version. -/
def versionText : String :=
  "sieve 0.2.1-devel\n"

namespace Arguments

/-- The settings file: the one in the arguments, or else the one that the environment names. An empty
name in the environment is an error. -/
def settingsPath (a : Arguments) (preset : Option String) : Option (Option String) :=
  match a.config, preset with
  | some path, _ => some (some path)
  | none, some "" => none
  | none, path => some path

/-- The request parameters in the input. -/
def params? (a : Arguments) : Option Params :=
  if a.json then Params.parse? a.input else some (.ofQueryString a.input)

/-- The query that the input asks for under given settings. -/
def query (a : Arguments) (settings : Except SettingsFileError Settings) :
    Except Failure Descriptor := do
  let settings ← settings.mapError .settingsFile
  let compiler ← settings.compiler.mapError .settings
  match a.params? with
  | none => .error .input
  | some params => (compiler.compile params).mapError .compile

/-- A query in the layout asked for. -/
def render (a : Arguments) (d : Descriptor) : String :=
  (if a.pretty then d.toJson.pretty else d.toJson.compact) ++ "\n"

end Arguments

/-- The settings in the file at a path, or the default ones if there is no path. -/
def settingsAt (files : String → Option ByteArray) : Option String → Except SettingsFileError Settings
  | some path => Settings.ofFile path (files path)
  | none => .ok .default

/-- The settings file that a run reads, if it reads one. -/
def settingsFile? (preset : Option String) (words : List String) : Option String :=
  match Invocation.parse words with
  | some (.run a) => (a.settingsPath preset).join
  | _ => none

/-- The outcome for a list of words; `preset` is the settings file that the environment names, and `files`
are the contents of files. -/
def run (preset : Option String) (files : String → Option ByteArray) (words : List String) : Outcome :=
  match Invocation.parse words with
  | none => .usage
  | some .help => .output helpText
  | some .version => .output versionText
  | some (.run a) =>
    match a.settingsPath preset with
    | none => .usage
    | some path =>
      match a.query (settingsAt files path) with
      | .ok d => .output (a.render d)
      | .error f => .failure f

end RequestQuery.CommandLine
