import RouteScript.Config.Toml
import RouteScript.Config.Yaml
import RouteScript.Files.Tree
import RouteScript.Text.LowerCase

/-!
# Loading settings

A configuration file is TOML or YAML, told apart by the ending of its name. Unknown keys are ignored.
A value of the wrong type is refused; YAML reports all such values, TOML the first.
-/

namespace RouteScript

open Text

inductive ConfigError where
  | unsupported (ending : Text)
  | unreadable (path : Text) (e : FileError)
  | toml (path : Text) (f : Toml.Fault)
  | yaml (path : Text) (f : Yaml.Fault)
  | yamlTypes (path : Text) (faults : List Text)
  deriving DecidableEq, Repr

def ConfigError.message : ConfigError → Text
  | .unsupported ending =>
    utf8 "unsupported config format " ++ quoted ending ++ utf8 " (use .toml, .yaml or .yml)"
  | .unreadable path e => utf8 "failed to load config " ++ path ++ utf8 ": " ++ e.message
  | .toml path f => utf8 "failed to load config " ++ path ++ utf8 ": " ++ f.render
  | .yaml path f => utf8 "failed to parse config " ++ path ++ utf8 ": " ++ f.render
  | .yamlTypes path faults =>
    utf8 "failed to parse config " ++ path ++ utf8 ": yaml: unmarshal errors:"
      ++ faults.flatMap fun f => utf8 "\n  " ++ f

namespace Config

def ofToml (path content : Text) : Except ConfigError Config :=
  (Toml.Document.read content >>= Toml.Document.config).mapError (.toml path)

def ofYaml (path content : Text) : Except ConfigError Config :=
  match Yaml.Document.read content >>= Yaml.config (content.length + 2) with
  | .error f => .error (.yaml path f)
  | .ok (c, []) => .ok c
  | .ok (_, faults) => .error (.yamlTypes path faults)

/-- The settings of the file at a path; an empty path means that nothing is set. -/
def load (tree : FileTree) (path : Text) : Except ConfigError Config :=
  if path = [] then .ok {}
  else
    let ending := (Path.extension path).lower
    let content := (tree.read path).mapError (ConfigError.unreadable path)
    if ending = utf8 ".toml" then content >>= ofToml path
    else if ending = utf8 ".yaml" ∨ ending = utf8 ".yml" then content >>= ofYaml path
    else .error (.unsupported (Path.extension path))

end Config
end RouteScript
