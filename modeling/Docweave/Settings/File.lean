import Docweave.Files.Tree
import Docweave.Settings.Basic
import Docweave.Yaml.Document
import Docweave.Yaml.Write

/-!
# Settings files

Settings are kept in a YAML file. A file that is missing gives the defaults.
-/

namespace Docweave

open Files

/-- The name of the settings file of a project. -/
def settingsFileName : Text := "dgen-one-settings.yaml"

/-- Why a settings file cannot be read. -/
inductive SettingsFileError where
  | file (error : FileError)
  | undecodable (error : Utf8.DecodeError)
  | unreadable (path : Text) (error : Yaml.ReadError)
  | invalid (path : Text) (error : SettingsError)
  deriving Repr

namespace SettingsFileError

/-- What is said about a settings file that cannot be read. -/
def message : SettingsFileError → Text
  | .file error => error.message
  | .undecodable error => error.message
  | .unreadable path .malformed => "Invalid settings file " ++ path ++ ": " ++ Yaml.ReadError.malformed.message
  | .unreadable _ error => error.message
  | .invalid path error => "Invalid settings file " ++ path ++ ": " ++ error.message

/-- Whether an error tells about a wrong value. Those that do not are failures. -/
def isAboutValue : SettingsFileError → Bool
  | .file _ => false
  | .unreadable _ error => error.isAboutValue
  | .undecodable _ | .invalid _ _ => true

end SettingsFileError

/-- Why a settings file cannot be written. -/
inductive SaveError where
  | file (error : FileError)
  | settings (error : SettingsError)
  deriving Repr

namespace SaveError

/-- What is said about a settings file that cannot be written. -/
def message : SaveError → Text
  | .file error => error.message
  | .settings error => error.message

end SaveError

namespace Settings

/-- The text of a settings file. -/
def toYaml (settings : Settings) : Text := Yaml.write settings.toValue

/-- The settings that the text of a settings file gives. -/
def ofYaml (path text : Text) : Except SettingsFileError Settings :=
  match Yaml.read text with
  | .error error => .error (.unreadable path error)
  | .ok data => (ofValue data).mapError (.invalid path)

/-- Read a settings file. -/
def load (files : Tree) (path : Text) : Except SettingsFileError Settings := do
  if (files.find? path).isNone then return default
  let bytes ← (files.read path).mapError .file
  let text ← (Utf8.decode bytes).mapError .undecodable
  ofYaml path (Text.unifyBreaks text)

/-- Write a settings file, in a directory that is made if it is not there. -/
def save (settings : Settings) (path : Text) (files : Tree) : Except SaveError Tree := do
  let made ← (files.makeDirectories (Path.parent path)).mapError .file
  let value ← (ended settings.toValue).mapError .settings
  if value.isTooLong then .error (.settings .numberTooLong)
  (made.write path (Utf8.encode settings.toYaml)).mapError .file

end Settings

end Docweave
