import PluginKit.Files
import PluginKit.Plugin.Load
import PluginKit.Settings.Groups

/-!
Where module bytes come from: memory or a file. Both ways end in the same bytes, so a plugin loaded
from a file is a plugin loaded from the file's content. The settings name the file of the compiled plugin, and its path
and its bytes always belong to the same file.
-/

namespace PluginKit

inductive ModuleSource where
  | buffer (data : List UInt8)
  | path (p : Path)

namespace ModuleSource

open Schema in
def bytes : Value → Checked (List UInt8)
  | .text s => ofKind ((Utf8.encodeStrict s).mapError fun _ => .textUnicode)
  | _ => .fault .bytesType

open Schema in
def bufferOfFields (fields : Fields) : Checked ModuleSource :=
  (fun _ data => .buffer data)
    <$> withDefault "buffer" ["kind"] (choice ["buffer"]) fields
    <*> required ["data"] bytes fields

open Schema in
def pathOfFields (fields : Fields) : Checked ModuleSource :=
  (fun _ p => .path p)
    <$> withDefault "path" ["kind"] (choice ["path"]) fields
    <*> required ["path"] Schema.path fields

def ofValue : Value → Schema.Checked ModuleSource
  | .object fields =>
    match Fields.get? fields "kind" with
    | none => .fault .tagMissing
    | some (.text "buffer") => (bufferOfFields fields).under (.field "buffer")
    | some (.text "path") => (pathOfFields fields).under (.field "path")
    | some _ => .fault .tagInvalid
  | _ => .fault .attributesType

def kind : ModuleSource → String
  | .buffer _ => "buffer"
  | .path _ => "path"

end ModuleSource

inductive SourceFault where
  | missing (p : Path)
  | unreadable (p : Path)
  | file (fault : FileFault) (p : Path)
  | unknown (kind : String)
  deriving DecidableEq

def SourceFault.message : SourceFault → String
  | .missing p => "Plugin module not found: " ++ p.text
  | .unreadable p => "Plugin module is not readable: " ++ p.text
  | .file fault p => fault.message p
  | .unknown kind => "Unknown module source: " ++ kind

def ModuleSource.resolve (files : Files) : ModuleSource → Except SourceFault (List UInt8)
  | .buffer data => .ok data
  | .path p =>
    match files.isFile p with
    | .error fault => .error (.file fault p)
    | .ok false => .error (.missing p)
    | .ok true => match files.read p with
      | .ok data => .ok data
      | .error _ => .error (.unreadable p)

def SourceFault.ofValue (v : Value) : SourceFault := .unknown v.kind

inductive LoadError where
  | source (fault : SourceFault)
  | plugin (error : PluginError)

namespace Formatter

variable {σ : Type}

def loaderLogger : String := Log.partLogger "plugin.loader"

def loadSource (engine : Engine σ) (patience : Nat) (files : Files) (source : ModuleSource) :
    Except LoadError (Formatter σ) × List Log.Record :=
  match source.resolve files with
  | .error fault => (.error (.source fault), [])
  | .ok data =>
    let message := Log.debugMessage ("Loading plugin from " ++ source.kind ++ " source (" ++
      toString data.length ++ " bytes)")
    let (result, journal) := load engine patience data
    (result.mapError .plugin, ⟨loaderLogger, Log.debugLevel, message⟩ :: journal)

end Formatter

/-! ## The compiled plugin -/

namespace Package

inductive Fault where
  | missing (path : Path)
  | unreadable (fault : FileFault) (path : Path)
  deriving DecidableEq

def Fault.message : Fault → String
  | .missing path => "Plugin module not found: " ++ path.text ++
      "\nSet PLUGIN_WASM_PATH or plugin.wasm_path in config.yaml to the compiled .wasm file."
  | .unreadable fault path => fault.message path

def path (files : Files) (settings : PluginSettings) : Except Fault Path :=
  match files.isFile settings.wasmPath with
  | .ok true => .ok settings.wasmPath
  | .ok false => .error (.missing settings.wasmPath)
  | .error fault => .error (.unreadable fault settings.wasmPath)

def data (files : Files) (settings : PluginSettings) : Except Fault (List UInt8) := do
  let found ← path files settings
  match files.read found with
  | .ok bytes => return bytes
  | .error fault => throw (.unreadable fault found)

end Package

end PluginKit
