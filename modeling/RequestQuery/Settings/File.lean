import RequestQuery.Json.Reader
import RequestQuery.Settings.Basic
import RequestQuery.Text.Basic
import RequestQuery.Toml.Reader

/-!
# Settings files

* `SettingsFormat.ofPath` — the format of a file, by its name: JSON if it ends in `.json`, else TOML.
* `Settings.parse` — the settings in a text.
* `Settings.ofFile` — the settings in a file, if there is one and it is a text.
* `SettingsFileError` — why there are none.
-/

namespace RequestQuery

/-- The formats in which settings are written. -/
inductive SettingsFormat where
  | json
  | toml
deriving DecidableEq, Inhabited

namespace SettingsFormat

/-- The last name of a path. There is none if the path ends by going up, or goes nowhere. -/
def fileName? (path : String) : Option (List Char) :=
  let names := (Text.splitOn '/' path.toList).filter fun name => !name.isEmpty && name != ['.']
  names.getLast?.filter (· != ['.', '.'])

/-- What stands behind the last point of a name. A point at the very start is part of the name
proper. -/
def extension? (name : List Char) : Option (List Char) :=
  let extension := (name.reverse.takeWhile (· != '.')).reverse
  if extension.length + 1 < name.length then some extension else none

/-- The format of a file, by its name. -/
def ofPath (path : String) : SettingsFormat :=
  match (fileName? path).bind extension? with
  | some extension =>
    if String.ofList (extension.map Char.toLower) = "json" then .json else .toml
  | none => .toml

/-- The document that a text in the format says. -/
def document : SettingsFormat → String → Document
  | .json, text => .ofJson text
  | .toml, text => .ofToml text

end SettingsFormat

/-- Why a file gives no settings. -/
inductive SettingsFileError where
  /-- There is no such file, or it is no text. -/
  | unreadable (path : String)
  /-- Its text gives no settings. -/
  | invalid (path : String) (cause : QueryError)
deriving DecidableEq

namespace SettingsFileError

/-- What was tried in vain. -/
def message : SettingsFileError → String
  | .unreadable path => "failed to read settings file " ++ path
  | .invalid path _ => "failed to parse settings file " ++ path

/-- What is wrong with the text. -/
def cause? : SettingsFileError → Option QueryError
  | .unreadable _ => none
  | .invalid _ cause => some cause

end SettingsFileError

namespace Settings

/-- The settings in a text. -/
def parse (format : SettingsFormat) (text : String) : Except QueryError Settings :=
  ofDocument (format.document text)

/-- The settings in the file at a path; `contents` is none if there is no such file. -/
def ofFile (path : String) (contents : Option ByteArray) : Except SettingsFileError Settings :=
  match contents.bind String.fromUTF8? with
  | none => .error (.unreadable path)
  | some text => (parse (.ofPath path) text).mapError (.invalid path)

end Settings

end RequestQuery
