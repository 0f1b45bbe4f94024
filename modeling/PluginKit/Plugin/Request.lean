import PluginKit.Plugin.Error
import PluginKit.Schema.Fault
import PluginKit.Schema.Scalar

/-!
Requests to format a text. They come in several shapes: a file path with the text beside it, an
object, or a finished request. All shapes end as one `FormatRequest`.
-/

namespace PluginKit

/-- What to format. The override is an object when it was checked; one that is given next to a
structured request is taken as it is. -/
structure FormatRequest where
  path : String
  text : String
  override : Value

namespace FormatRequest

open Schema in
def overrideCheck (v : Value) : Checked Value :=
  (optional mapping v).map fun
    | some fields => .object fields
    | none => .null

open Schema in
def ofFields (fields : Fields) : Checked FormatRequest :=
  FormatRequest.mk
    <$> required ["filePath", "file_path"] Schema.text fields
    <*> required ["fileText", "file_text"] Schema.text fields
    <*> withDefault .null ["overrideConfig", "override_config"] overrideCheck fields

def ofValue : Value → Schema.Checked FormatRequest := Schema.record ofFields

end FormatRequest

inductive Request where
  | path (text : String)
  | value (v : Value)
  | ready (request : FormatRequest)

inductive Coerced where
  | request (r : FormatRequest)
  | other (v : Value)

namespace Request

def withOverride (override : Value) (r : FormatRequest) : FormatRequest :=
  if override.isNull then r else { r with override := override }

/-- Brings a request into its one form. A path needs the text beside it, a structured request must
not have one, and every override is an object. -/
def coerce (request : Request) (text : Value) (override : Value) : Except PluginError Coerced :=
  match request with
  | .path p | .value (.text p) =>
    if text.isNull then .error .textMissing
    else
      let fields := Fields.named
        [("file_path", .text p), ("file_text", text), ("override_config", override)]
      match FormatRequest.ofFields fields with
      | .valid r => .ok (.request r)
      | .invalid faults => .error (.invalid faults)
  | .value (.object fields) =>
    if !text.isNull then .error .textGiven
    else match FormatRequest.ofFields fields with
      | .valid r => .ok (.request (withOverride override r))
      | .invalid faults => .error (.badRequest faults)
  | .ready r =>
    if !text.isNull then .error .textGiven else .ok (.request (withOverride override r))
  | .value v =>
    if !text.isNull then .error .textGiven
    else if override.isNull then .ok (.other v)
    else .error (.noField v.kind "model_copy")

end Request

end PluginKit
