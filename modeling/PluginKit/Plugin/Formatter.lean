import PluginKit.Json.Printer
import PluginKit.Plugin.Config
import PluginKit.Plugin.Info
import PluginKit.Plugin.Request
import PluginKit.Plugin.Transfer

/-!
A loaded plugin and what it can be asked for: to take a configuration, to tell about itself and about
its configuration, and to format texts. A plugin that was never configured is given the empty
configuration before it is asked anything that depends on one.
-/

namespace PluginKit

/-- A loaded plugin. On schema 4 a configuration goes by a number, of which `configId` is the latest;
`patience` bounds how often an empty round of a transfer is repeated. -/
structure Formatter (σ : Type) where
  plugin : Plugin σ
  transfer : Transfer
  configured : Bool
  configId : Nat
  patience : Nat

namespace Formatter

variable {σ : Type}

def schema (f : Formatter σ) : Nat := f.transfer.schema

/-- An operation on a loaded plugin; what it changed before it failed stays changed. -/
abbrev Op (σ : Type) := ExceptT PluginError (StateM (Formatter σ))

def host {α : Type} (activity : Host σ α) : Op σ α := fun f =>
  let (result, after) := activity f.plugin
  (result, { f with plugin := after })

def log (message : String) : Op σ Unit := host (Host.log message)

def call (stage : Stage) (name : String) (args : List Int) : Op σ Reply :=
  host (Host.call stage name args)

def send (stage : Stage) (text : String) : Op σ Unit := do
  host (Host.send stage (← get).transfer text)

def receiveFrom (stage : Stage) (name : String) (args : List Int) : Op σ String := do
  let f ← get
  host (Host.receiveFrom stage f.transfer f.patience name args)

def configArgs (f : Formatter σ) : List Int :=
  match f.transfer with
  | .direct => [(f.configId : Int)]
  | _ => []

def sendValue (stage : Stage) (v : Value) : Op σ Unit :=
  match Json.write v with
  | .ok text => send stage text
  | .error fault => throw (.unwritable fault)

/-! ## Configuration -/

inductive GlobalArg where
  | config (c : GlobalConfig)
  | value (v : Value)

def GlobalArg.toFields : GlobalArg → Except MappingFault Fields
  | .config c => .ok c.toFields
  | .value v => v.toMapping

def registerConfig (globals plugin : Fields) : Op σ Unit := do
  let before ← get
  if before.configured then
    let _ ← call .running "release_config" [(before.configId : Int)]
  modify fun f => { f with configId := f.configId + 1 }
  sendValue .running (.record [("global", .object globals), ("plugin", .object plugin)])
  let _ ← call .running "register_config" [((← get).configId : Int)]

def replaceConfig (globals plugin : Fields) : Op σ Unit := do
  if (← get).plugin.hasExport "reset_config" then
    let _ ← call .running "reset_config" []
  sendValue .running (.object globals)
  let _ ← call .running "set_global_config" []
  sendValue .running (.object plugin)
  let _ ← call .running "set_plugin_config" []

def applyConfig (globals plugin : Fields) : Op σ Unit := do
  match (← get).transfer with
  | .direct => registerConfig globals plugin
  | _ => replaceConfig globals plugin
  modify fun f => { f with configured := true }
  log ("Plugin config set: global=" ++ (Value.object globals).literal ++
    " plugin=" ++ (Value.object plugin).literal)

def setConfig (globals : GlobalArg) (plugin : Value) : Op σ Unit := do
  match globals.toFields with
  | .error fault => throw (.badMapping fault)
  | .ok globalFields => match plugin.toMapping with
    | .error fault => throw (.badMapping fault)
    | .ok pluginFields => applyConfig globalFields pluginFields

def ensureConfig : Op σ Unit := do
  if (← get).configured then pure () else applyConfig [] []

/-! ## Questions -/

def parseReply (text : String) : Op σ Value :=
  match Json.parse text with
  | .ok value => pure value
  | .error error => throw (.badJson error)

def resolvedConfig : Op σ Value := do
  ensureConfig
  parseReply (← receiveFrom .running "get_resolved_config" (configArgs (← get)))

def readDiagnostics : List Value → Except (List Schema.Fault) (List Diagnostic)
  | [] => .ok []
  | v :: rest => match Diagnostic.ofValue v with
    | .invalid faults => .error faults
    | .valid d => (readDiagnostics rest).map (d :: ·)

def diagnostics : Op σ (List Diagnostic) := do
  ensureConfig
  let value ← parseReply (← receiveFrom .running "get_config_diagnostics" (configArgs (← get)))
  match value.iterate? with
  | none => throw (.badMapping (.notIterable value.kind))
  | some items => match readDiagnostics items with
    | .ok found => pure found
    | .error faults => throw (.invalid faults)

def info : Op σ PluginInfo := do
  match PluginInfo.ofJson (← receiveFrom .running "get_plugin_info" []) with
  | .valid found => pure found
  | .invalid faults => throw (.badInfo faults)

def license : Op σ String := receiveFrom .running "get_license_text" []

/-! ## Formatting -/

def sendOverride (r : FormatRequest) : Op σ Unit := do
  if r.override.isVoid then pure ()
  else if !(← get).plugin.hasExport "set_override_config" then throw (.noOverride r.path)
  else
    sendValue .formatting r.override
    let _ ← call .formatting "set_override_config" []

def formatReply (r : FormatRequest) (code : Reply) : Op σ String := do
  if code.isNumber 0 then
    log ("No change for " ++ r.path)
    pure r.text
  else if code.isNumber 1 then
    log ("Formatted " ++ r.path)
    receiveFrom .formatting "get_formatted_text" []
  else if code.isNumber 2 then
    throw (.rejected r.path (← receiveFrom .formatting "get_error_text" []))
  else throw (.unexpectedCode r.path code)

def formatRequest (r : FormatRequest) : Op σ String := do
  ensureConfig
  sendOverride r
  send .formatting r.path
  let _ ← call .formatting "set_file_path" []
  send .formatting r.text
  let code ← call .formatting "format" (configArgs (← get))
  formatReply r code

def format (request : Request) (text : Value) (override : Value) : Op σ String := do
  match request.coerce text override with
  | .error error => throw error
  | .ok (.request r) => formatRequest r
  | .ok (.other v) =>
    ensureConfig
    throw (.noField v.kind "override_config")

end Formatter

end PluginKit
