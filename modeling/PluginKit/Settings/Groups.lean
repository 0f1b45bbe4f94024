import PluginKit.Release.Notes
import PluginKit.Schema.Fault
import PluginKit.Settings.Source

/-!
The groups of settings. Every field of a group is taken from the keywords it is built with, else from
the environment variable that starts with the group's own mark, else from its default.
-/

namespace PluginKit

structure PluginSettings where
  wasmPath : Path
  deriving DecidableEq

structure FormatSettings where
  lineWidth : Option Int
  indentWidth : Option Int
  useTabs : Option Bool
  newLineKind : Option String
  pluginConfig : Fields

structure GitHubSettings where
  apiUrl : String
  repo : String
  branch : String
  token : String
  timeout : Binary64
  deriving DecidableEq

open Settings

def Settings.ofChecked {α : Type} : Schema.Checked α → Except GroupError α
  | .valid a => .ok a
  | .invalid faults => .error (.invalid faults)

def PluginSettings.shape : Shape := ⟨["wasm_path"], []⟩

def PluginSettings.ofLayers (files : Files) (env : Environment) (keywords : Fields) :
    Except GroupError PluginSettings := do
  let fields ← layered files env "PLUGIN_" shape keywords
  ofChecked (PluginSettings.mk
    <$> Schema.withDefault (Path.ofString "./plugin.wasm") ["wasm_path"] Schema.path fields)

def FormatSettings.shape : Shape :=
  ⟨["line_width", "indent_width", "use_tabs", "new_line_kind"], ["plugin_config"]⟩

open Schema in
def FormatSettings.ofLayers (files : Files) (env : Environment) (keywords : Fields) :
    Except GroupError FormatSettings := do
  let fields ← layered files env "FORMAT_" shape keywords
  ofChecked (FormatSettings.mk
    <$> withDefault none ["line_width"] (optional int) fields
    <*> withDefault none ["indent_width"] (optional int) fields
    <*> withDefault none ["use_tabs"] (optional flag) fields
    <*> withDefault none ["new_line_kind"] (optional text) fields
    <*> withDefault [] ["plugin_config"] mapping fields)

def defaultTimeout : Binary64 := Binary64.ofInt 30

def GitHubSettings.shape : Shape := ⟨["api_url", "repo", "branch", "token", "timeout"], []⟩

open Schema in
def GitHubSettings.ofLayers (files : Files) (env : Environment) (keywords : Fields) :
    Except GroupError GitHubSettings := do
  let fields ← layered files env "GITHUB_" shape keywords
  ofChecked (GitHubSettings.mk
    <$> withDefault "https://api.github.com" ["api_url"] text fields
    <*> withDefault "dprint/dprint-plugin-json" ["repo"] text fields
    <*> withDefault "main" ["branch"] text fields
    <*> withDefault "" ["token"] text fields
    <*> withDefault defaultTimeout ["timeout"] float fields)

def ReleaseSettings.shape : Shape :=
  ⟨["plugin_url_base", "plugin_name", "config_key", "npm_package"], []⟩

open Schema in
def ReleaseSettings.ofLayers (files : Files) (env : Environment) (keywords : Fields) :
    Except GroupError ReleaseSettings := do
  let fields ← layered files env "RELEASE_" shape keywords
  ofChecked (ReleaseSettings.mk
    <$> withDefault "https://plugins.dprint.dev" ["plugin_url_base"] text fields
    <*> withDefault "json" ["plugin_name"] text fields
    <*> withDefault "json" ["config_key"] text fields
    <*> withDefault "@dprint/json" ["npm_package"] text fields)

end PluginKit
