import RequestQuery.Text.Basic

/-!
# Command-line arguments

* `Arguments` — what a run is asked to do.
* `Invocation` — a run, or a question about the program.
* `Invocation.parse` — the invocation that a list of words stands for, if it is well formed.

Words are read front to back. Every option may be given once, and there is exactly one input. A word
that starts with a hyphen is an option, unless it is a single hyphen or stands behind `--`.
-/

namespace RequestQuery.CommandLine

/-- What a run is asked to do. -/
structure Arguments where
  /-- The path of the settings file. -/
  config : Option String
  /-- Whether the input is a JSON object instead of a query string. -/
  json : Bool
  /-- Whether the output is laid out over several lines. -/
  pretty : Bool
  /-- The request parameters. -/
  input : String
deriving DecidableEq, Inhabited

/-- A run, or a question about the program. -/
inductive Invocation where
  | run (arguments : Arguments)
  | help
  | version
deriving DecidableEq, Inhabited

/-- What the words read so far have given. -/
structure Given where
  config : Option String
  json : Bool
  pretty : Bool
  input : Option String

namespace Given

/-- Nothing has been given. -/
def start : Given :=
  ⟨none, false, false, none⟩

/-- The path of the settings file is given, which must not be empty. -/
def giveConfig (g : Given) (path : String) : Option Given :=
  if g.config.isSome || path.isEmpty then none else some { g with config := some path }

/-- The input is a JSON object. -/
def giveJson (g : Given) : Option Given :=
  if g.json then none else some { g with json := true }

/-- The output is laid out over several lines. -/
def givePretty (g : Given) : Option Given :=
  if g.pretty then none else some { g with pretty := true }

/-- The input is given. -/
def giveInput (g : Given) (input : String) : Option Given :=
  if g.input.isSome then none else some { g with input := some input }

/-- The arguments, once the input is given. -/
def arguments? (g : Given) : Option Arguments :=
  g.input.map fun input => ⟨g.config, g.json, g.pretty, input⟩

end Given

/-- What a word asks for. -/
inductive Word where
  /-- The words that follow are no options. -/
  | endOfOptions
  /-- The settings file, unless its path is the next word. -/
  | config (path : Option String)
  | json
  | pretty
  | help
  | version
  /-- A value: the input, or the path that an option asked for. -/
  | value (s : String)
  /-- An option that is none. -/
  | unknown
deriving DecidableEq, Inhabited

namespace Word

/-- An option with a long name, which stands behind two hyphens. -/
def ofLong (cs : List Char) : Word :=
  let (name, attached) :=
    match Text.cut? '=' cs with
    | some (name, attached) => (name, some (String.ofList attached))
    | none => (cs, none)
  match String.ofList name, attached with
  | "config", path => .config path
  | "json", none => .json
  | "pretty", none => .pretty
  | "help", none => .help
  | "version", none => .version
  | _, _ => .unknown

/-- An option with a name of one letter; a path may follow at once or behind an equals sign. -/
def ofShort : List Char → Word
  | ['c'] => .config none
  | 'c' :: '=' :: path => .config (some (String.ofList path))
  | 'c' :: path => .config (some (String.ofList path))
  | 'h' :: _ => .help
  | 'V' :: _ => .version
  | _ => .unknown

/-- What a word asks for. -/
def ofString (s : String) : Word :=
  match s.toList with
  | ['-', '-'] => .endOfOptions
  | '-' :: '-' :: cs => ofLong cs
  | ['-'] => .value s
  | '-' :: cs => ofShort cs
  | _ => .value s

end Word

/-- The invocation that the words behind `--` complete. -/
def parseValues : Given → List String → Option Invocation
  | g, [] => g.arguments?.map .run
  | g, s :: words => do parseValues (← g.giveInput s) words

/-- The invocation that more words complete; `pathExpected` tells whether the next one must be the path
of the settings file. -/
def parseWords : Bool → Given → List String → Option Invocation
  | true, _, [] => none
  | true, g, s :: words =>
    match Word.ofString s with
    | .value path => do parseWords false (← g.giveConfig path) words
    | _ => none
  | false, g, [] => g.arguments?.map .run
  | false, g, s :: words =>
    match Word.ofString s with
    | .endOfOptions => parseValues g words
    | .config none => parseWords true g words
    | .config (some path) => do parseWords false (← g.giveConfig path) words
    | .json => do parseWords false (← g.giveJson) words
    | .pretty => do parseWords false (← g.givePretty) words
    | .help => some .help
    | .version => some .version
    | .value input => do parseWords false (← g.giveInput input) words
    | .unknown => none

/-- The invocation that a list of words stands for, if it is well formed. -/
def Invocation.parse (words : List String) : Option Invocation :=
  parseWords false .start words

end RequestQuery.CommandLine
