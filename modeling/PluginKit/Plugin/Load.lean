import PluginKit.Plugin.Formatter

/-!
Loading a plugin from its module bytes. The checks run in a fixed order and the first that fails
decides the outcome.
-/

namespace PluginKit

def moduleHeader : List UInt8 := [0x00, 0x61, 0x73, 0x6d]

def hostSpace : String := "dprint"

def bufferedExports : List String :=
  ["get_wasm_memory_buffer", "get_wasm_memory_buffer_size", "clear_shared_bytes",
    "add_to_shared_bytes_from_buffer", "set_buffer_with_shared_bytes", "set_global_config",
    "set_plugin_config"]

def directExports : List String :=
  ["get_shared_bytes_ptr", "clear_shared_bytes", "register_config", "release_config"]

def commonExports : List String :=
  ["get_plugin_info", "get_license_text", "get_resolved_config", "get_config_diagnostics",
    "set_file_path", "format", "get_formatted_text", "get_error_text"]

inductive SchemaVersion where
  | three
  | four
  deriving DecidableEq

def SchemaVersion.exports : SchemaVersion → List String
  | .three => bufferedExports ++ commonExports
  | .four => directExports ++ commonExports

namespace Load

variable {σ : Type}

def fail {α : Type} (fault : LoadFault) : Host σ α := throw (.load fault)

def call (name : String) : Host σ Reply := fun p =>
  match p.call name [] with
  | (.ok reply, after) => (.ok reply, after)
  | (.error fault, after) => (.error (.load (.call fault)), after)

def versionExport? (guest : Guest σ) : Option String :=
  ["dprint_plugin_version_4", "get_plugin_schema_version"].find? fun name =>
    (guest.exports name).isSome

def version : Host σ SchemaVersion := do
  match versionExport? (← get).guest with
  | none => fail .noVersion
  | some name =>
    let reply ← call name
    if reply.isNumber 3 then pure .three
    else if reply.isNumber 4 then pure .four
    else fail (.unsupportedVersion reply)

def transfer : SchemaVersion → Host σ Transfer
  | .four => pure .direct
  | .three => do
    match ← call "get_wasm_memory_buffer_size" with
    | .int n => if positive : 0 < n.toNat then pure (.buffered n.toNat positive) else fail .emptyBuffer
    | .float x => if x.atMostZero then fail .emptyBuffer else pure (.fractional x)
    | reply => throw (.mismatch (.atMost reply.kind "int"))

def inspect : Host σ Transfer := do
  let guest := (← get).guest
  if guest.exports "memory" ≠ some .memory then fail .noMemory
  let found ← version
  let missing := found.exports.filter fun name => (guest.exports name).isNone
  if !missing.isEmpty then fail (.missingExports missing)
  let transfer ← transfer found
  Host.log ("Plugin instance ready (schema version " ++ toString transfer.schema ++ ")")
  pure transfer

def unsupportedImport? (imports : List Import) : Option Import :=
  imports.find? fun i => i.space ≠ hostSpace || !i.isFunction

def compile (engine : Engine σ) (bytes : List UInt8) : Except LoadFault (Plugin σ) :=
  if bytes.isEmpty then .error .empty
  else if !moduleHeader.isPrefixOf bytes then .error .noHeader
  else match engine bytes with
    | none => .error .notCompiled
    | some compiled => match unsupportedImport? compiled.imports with
      | some i => .error (.unsupportedImport i.space i.name)
      | none => match compiled.start with
        | none => .error .notStarted
        | some (memory, state) => .ok ⟨compiled.guest, memory, state, []⟩

end Load

namespace Formatter

variable {σ : Type}

def load (engine : Engine σ) (patience : Nat) (bytes : List UInt8) :
    Except PluginError (Formatter σ) × List Log.Record :=
  match Load.compile engine bytes with
  | .error fault => (.error (.load fault), [])
  | .ok plugin =>
    let started := plugin.log ("Compiled plugin module (" ++ toString bytes.length ++ " bytes)")
    match Load.inspect started with
    | (.error error, after) => (.error error, after.journal)
    | (.ok transfer, after) => (.ok ⟨after, transfer, false, 0, patience⟩, after.journal)

end Formatter

end PluginKit
