import Filing.Notation.Json
import Filing.Notation.Toml
import Filing.Notation.Variable
import Filing.Notation.Yaml
import Filing.Settings.Location

/-!
Loading settings: the defaults, then a file, then environment variables, each laid over what came
before, and then the check that the result is acceptable.

A file that is asked for by name has to be there; the user's own file is used if it is there and no
other was asked for.
-/
namespace Filing

inductive Notation where
  | toml
  | yaml
  | json
  deriving DecidableEq

namespace Notation

def ofFileName? (name : String) : Option Notation :=
  match Location.fileExtension? name with
  | some "toml" => some .toml
  | some "yaml" | some "yml" => some .yaml
  | some "json" => some .json
  | _ => none

def read? : Notation → String → Option Value
  | toml => Toml.read?
  | yaml => Yaml.read?
  | json => Json.read?

end Notation

/-- What is found under a path. -/
inductive Found where
  | nothing
  | directory
  | contents (text : String)
  deriving DecidableEq

/-- Everything that settings are loaded from. -/
structure Sources where
  /-- The name of the file asked for, and what is there. -/
  file : Option (String × Found)
  /-- The user's own file, if there is one. -/
  userFile : Option String
  environment : List (String × String)

/-- The table that a file of this name and text holds. -/
def fileLayer (name text : String) : Except SettingsError Value :=
  match Notation.ofFileName? name with
  | none => .error (.unsupportedFormat name)
  | some kind =>
    match kind.read? text with
    | some (.table fields) => .ok (.table fields)
    | _ => .error .load

def Sources.fileLayer? (s : Sources) : Except SettingsError (Option Value) :=
  match s.file, s.userFile with
  | some (name, .contents text), _ => do return some (← fileLayer name text)
  -- Not being there counts before having an unknown extension.
  | some (_, _), _ => .error .load
  | none, some text => do return some (← fileLayer "grove.toml" text)
  | none, none => .ok none

def Settings.load (s : Sources) : Except SettingsError Settings := do
  let standard := Settings.toValue {}
  let withFile := match ← s.fileLayer? with
    | some layer => standard.overlay layer
    | none => standard
  match Settings.ofValue? (withFile.overlay (Notation.Variable.layer s.environment)) with
  | some settings => settings.validate
  | none => .error .load

end Filing
