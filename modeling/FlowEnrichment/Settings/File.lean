import FlowEnrichment.FileTree
import FlowEnrichment.Settings
import FlowEnrichment.Text.Quoted
import FlowEnrichment.Toml.Document

/-!
# Settings files

Settings are read from one file: the one that was asked for, or else the file of the user, or
else the file of the system. A file that was asked for must be there; a file that is there must
be readable and hold settings.
-/
namespace FlowEnrichment.Settings

/-- The settings file below the directory of a user's configuration. -/
def userFile (home : String) : String := home ++ "/.config/flowmeta/config.toml"

/-- The settings file of the system. -/
def systemFile : String := "/etc/flowmeta/config.toml"

/-- The files that are tried when none was asked for, in order. -/
def standardFiles (home : Option String) : List String :=
  (home.map userFile).toList ++ [systemFile]

/-- The settings file to read. -/
def locate (files : FileTree) (home asked : Option String) : Except Failure String :=
  match asked with
  | some path =>
    if files.exists? path then .ok path
    else .error (.configuration ("Config file not found: " ++ Text.quoted path))
  | none =>
    match (standardFiles home).find? files.exists? with
    | some path => .ok path
    | none =>
      .error (.configuration
        "No config file found. Create ~/.config/flowmeta/config.toml or /etc/flowmeta/config.toml")

/-- The refusal of a file that cannot be read. -/
def unreadable (path reason : String) : Failure :=
  .configuration ("Failed to read config file " ++ Text.quoted path ++ ": " ++ reason)

/-- The refusal of a file whose text is no settings. -/
def unparsable (path : String) : Failure :=
  .configuration ("Failed to parse config file " ++ Text.quoted path ++ ": TOML")

/-- The settings in a file. -/
def loadFile (files : FileTree) (path : String) : Except Failure Settings :=
  match files.read path with
  | .error fault => .error (unreadable path fault.message)
  | .ok content =>
    match Utf8.decode? content with
    | none => .error (unreadable path "stream did not contain valid UTF-8")
    | some text =>
      match Toml.decode? decoder text with
      | some settings => .ok settings
      | none => .error (unparsable path)

/-- The settings in the file that was asked for or is found in its place. -/
def load (files : FileTree) (home asked : Option String) : Except Failure Settings := do
  loadFile files (← locate files home asked)

end FlowEnrichment.Settings
