import PluginKit.Json.Parser
import PluginKit.Json.Printer
import PluginKit.Plugin.Guest
import PluginKit.Schema.Fault
import PluginKit.Text.Utf8
import PluginKit.Value.Mapping

/-!
Everything that can go wrong between a host and a plugin, by cause.
-/

namespace PluginKit

inductive CallFault where
  | notFunction (name : String)
  | trapped (name : String)
  deriving DecidableEq

def CallFault.message : CallFault → String
  | .notFunction name => "Plugin does not export function: " ++ name
  | .trapped name => "Plugin trapped in " ++ name

inductive LoadFault where
  | empty
  | noHeader
  | notCompiled
  | unsupportedImport (space name : String)
  | notStarted
  | noMemory
  | noVersion
  | unsupportedVersion (reply : Reply)
  | missingExports (names : List String)
  | emptyBuffer
  | call (fault : CallFault)
  deriving DecidableEq

def LoadFault.message : LoadFault → String
  | .empty => "Plugin module is empty"
  | .noHeader => "Not a WebAssembly module (missing \\0asm header)"
  | .notCompiled => "Failed to compile plugin module"
  | .unsupportedImport space name => "Unsupported plugin import: " ++ space ++ "." ++ name
  | .notStarted => "Failed to instantiate plugin module"
  | .noMemory => "Plugin module does not export its memory"
  | .noVersion => "Module is not a dprint plugin (no schema version export)"
  | .unsupportedVersion reply =>
    "Unsupported plugin schema version " ++ reply.text ++ ". Supported: 3, 4"
  | .missingExports names =>
    "Plugin module is missing required exports: " ++ String.intercalate ", " names
  | .emptyBuffer => "Plugin reported an empty memory buffer"
  | .call fault => fault.message

inductive Mismatch where
  | less (left right : String)
  | atMost (left right : String)
  | sum (left right : String)
  | concat (right : String)
  | slice
  | argument (number : Binary64)
  deriving DecidableEq

def Mismatch.message : Mismatch → String
  | .less left right =>
    "'<' not supported between instances of '" ++ left ++ "' and '" ++ right ++ "'"
  | .atMost left right =>
    "'<=' not supported between instances of '" ++ left ++ "' and '" ++ right ++ "'"
  | .sum left right => "unsupported operand type(s) for +: '" ++ left ++ "' and '" ++ right ++ "'"
  | .concat right => "can only concatenate list (not \"" ++ right ++ "\") to list"
  | .slice => "slice indices must be integers or None or have an __index__ method"
  | .argument number => "don't know how to convert " ++ number.text ++ " to i32"

inductive Stage where
  | running
  | formatting
  deriving DecidableEq

inductive PluginError where
  | load (fault : LoadFault)
  | call (stage : Stage) (fault : CallFault)
  | badInfo (faults : List Schema.Fault)
  | rejected (path : String) (message : String)
  | unexpectedCode (path : String) (reply : Reply)
  | noOverride (path : String)
  | outOfMemory
  | badText (fault : Utf8.Fault)
  | unencodable (fault : Utf8.EncodeFault)
  | badJson (error : Json.Error)
  | mismatch (fault : Mismatch)
  | stalled
  | invalid (faults : List Schema.Fault)
  | badRequest (faults : List Schema.Fault)
  | textMissing
  | textGiven
  | noField (kind name : String)
  | badMapping (fault : MappingFault)
  | unwritable (fault : Json.Unwritable)

def PluginError.message : PluginError → String
  | .load fault => fault.message
  | .call _ fault => fault.message
  | .badInfo _ => "Plugin returned invalid plugin info"
  | .rejected _ message => message
  | .unexpectedCode _ reply => "Unexpected response code from plugin: " ++ reply.text
  | .noOverride _ => "Plugin does not support override configuration"
  | .outOfMemory => "index out of range"
  | .badText fault => fault.message
  | .unencodable fault => fault.message
  | .badJson error => error.message
  | .mismatch fault => fault.message
  | .stalled => "the plugin sends nothing"
  | .invalid _ => "invalid value"
  | .badRequest _ => "Invalid format request"
  | .textMissing => "file_text is required when the request is a file path"
  | .textGiven => "file_text must not be passed alongside a structured request"
  | .noField kind name => "'" ++ kind ++ "' object has no attribute '" ++ name ++ "'"
  | .badMapping fault => fault.message
  | .unwritable fault => fault.message

end PluginKit
