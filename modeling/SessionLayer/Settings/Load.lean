import SessionLayer.Settings.Environment
import SessionLayer.Settings.File

/-!
# Loading settings

Settings come from a file and from the environment, and the environment wins. Without a given path the
first candidate that exists is the file; where none exists, the environment alone counts.
-/

set_option autoImplicit false

namespace SessionLayer.Settings

/-- What stands at each path. -/
abbrev FileSystem := String → FileEntry

/-- Where a settings file is looked for, in this order. -/
def candidates (home : Option String) : List String :=
  ["./pgsession.toml"] ++ (home.map (· ++ "/.config/pgsession/config.toml")).toList
    ++ ["/etc/pgsession/config.toml"]

/-- The first candidate at which something stands. -/
def findFile (files : FileSystem) (home : Option String) : Option String :=
  (candidates home).find? fun path => (files path).isPresent

/-- The settings after changes of a file and then of the environment. -/
def merge (fileChanges : Except SettingsFault (List Change)) (env : Environment) :
    Except SettingsFault Settings := do
  let fromFile ← fileChanges
  let fromEnvironment ← env.settingsChanges
  return (standard.changeAll fromFile).changeAll fromEnvironment

/-- Loads settings from the file at a path and from the environment. -/
def loadFrom (files : FileSystem) (path : String) (env : Environment) :
    Except SettingsFault Settings :=
  merge ((files path).settingsChanges path) env

/-- Loads settings from the first file that exists and from the environment. -/
def load (files : FileSystem) (home : Option String) (env : Environment) :
    Except SettingsFault Settings :=
  match findFile files home with
  | some path => loadFrom files path env
  | none => merge (.ok []) env

end SessionLayer.Settings
