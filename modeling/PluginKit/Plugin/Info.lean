import PluginKit.Json.Parser
import PluginKit.Schema.Fault
import PluginKit.Schema.Scalar

/-!
What a plugin says about itself.
-/

namespace PluginKit

structure PluginInfo where
  name : String
  version : String
  configKey : String
  fileExtensions : List String
  fileNames : List String
  helpUrl : String
  configSchemaUrl : String
  updateUrl : Option String
  deriving DecidableEq

namespace PluginInfo

open Schema in
def ofFields (fields : Fields) : Checked PluginInfo :=
  PluginInfo.mk
    <$> required ["name"] text fields
    <*> required ["version"] text fields
    <*> required ["configKey"] text fields
    <*> withDefault [] ["fileExtensions"] (list text) fields
    <*> withDefault [] ["fileNames"] (list text) fields
    <*> withDefault "" ["helpUrl"] text fields
    <*> withDefault "" ["configSchemaUrl"] text fields
    <*> withDefault none ["updateUrl"] (optional text) fields

def ofValue : Value → Schema.Checked PluginInfo := Schema.record ofFields

def ofJson (s : String) : Schema.Checked PluginInfo :=
  match Json.parseStrict s with
  | .error _ => .fault .invalidJson
  | .ok value => ofValue value

end PluginInfo

end PluginKit
