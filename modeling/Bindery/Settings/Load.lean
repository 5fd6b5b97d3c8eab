import Bindery.Settings.Search
import Bindery.Settings.Environment
import Bindery.Toml.Document

/-!
Contract: the settings that hold for a run.

Owns:
- the layers: what the caller gives, over the environment, over the configuration file, over the
  defaults. Mappings are merged key by key, keys of lower layers first;
- the project root: the one given, else the directory of the configuration file, else the working
  directory;
- `SettingsError`, why there are no settings. A file that cannot be read comes before a variable
  that cannot, and that before a value that does not fit.
-/

namespace Bindery

inductive SettingsError where
  | invalidFile (path : Path)
  | unreadableSection (name : String)
  | invalid (issues : List Settings.Issue)
deriving DecidableEq, Repr

/-- The message of an error, except for single values. -/
def SettingsError.message : SettingsError → String
  | invalidFile path => "Invalid TOML in " ++ path.render
  | unreadableSection name =>
      "error parsing value for field \"" ++ name ++ "\" from source \"EnvSettingsSource\""
  | invalid _ => ""

namespace Settings

/-- The configuration file of a run: the one given, if it is there, else the one found. -/
def chooseFile (given : Option String) (root : Option Path) : Action (Option Path) :=
  match given.filter fun text => !text.isEmpty with
  | some text => ifFile (.ofString text)
  | none => findFile root

def chooseRoot (given file : Option Path) : Action Path :=
  match given, file with
  | some root, _ => pure root
  | none, some path => pure path.parent
  | none, none => Action.workingDirectory

/-- The text of a configuration file, which has to be UTF-8. -/
def fileText (path : Path) : Action String := do
  match Text.readStrict (← Action.readFile path) with
  | .ok text => return text
  | .error fault => .fail (.notUtf8 fault)

def fileEntries : Option Path → Action (Except SettingsError Entries)
  | none => pure (.ok [])
  | some path => do
      match Toml.read (← fileText path) with
      | .ok entries => return .ok entries
      | .error .malformed => return .error (.invalidFile path)
      | .error (.tooManyDigits count) => .fail (.tooManyDigits count)

def ofLayers (root : Path) (file : Option Path) (given : Entries)
    (environment : List (String × String)) (stored : Entries) : Except SettingsError Settings :=
  match Environment.read environment with
  | .error name => .error (.unreadableSection name)
  | .ok named =>
      match read root file (Value.overlayAll [stored, named, given]) with
      | .error issues => .error (.invalid issues)
      | .ok settings => .ok settings

/-- The settings of a run, `given` being the layer on top. -/
def load (configPath : Option String) (projectRoot : Option Path) (given : Entries) :
    Action (Except SettingsError Settings) := do
  let file ← chooseFile configPath projectRoot
  let root ← chooseRoot projectRoot file
  match ← fileEntries file with
  | .error error => return .error error
  | .ok stored =>
      let environment ← Action.environment
      return ofLayers root file given environment stored

end Settings

end Bindery
