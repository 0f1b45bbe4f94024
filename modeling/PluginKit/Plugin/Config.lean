import PluginKit.Schema.Fault
import PluginKit.Schema.Scalar

/-!
The configuration that all plugins share, and what plugins say about configurations.
-/

namespace PluginKit

inductive NewLineKind where
  | auto
  | lf
  | crlf
  | system
  deriving DecidableEq

namespace NewLineKind

def text : NewLineKind → String
  | .auto => "auto"
  | .lf => "lf"
  | .crlf => "crlf"
  | .system => "system"

def all : List NewLineKind := [.auto, .lf, .crlf, .system]

def check : Value → Schema.Checked NewLineKind
  | .text s => match all.find? fun kind => kind.text = s with
    | some kind => .valid kind
    | none => .fault .choice
  | _ => .fault .choice

end NewLineKind

structure GlobalConfig where
  lineWidth : Option Int
  indentWidth : Option Int
  useTabs : Option Bool
  newLineKind : Option NewLineKind
  deriving DecidableEq

namespace GlobalConfig

open Schema in
def ofFields (fields : Fields) : Checked GlobalConfig :=
  GlobalConfig.mk
    <$> withDefault none ["lineWidth", "line_width"] (optional int) fields
    <*> withDefault none ["indentWidth", "indent_width"] (optional int) fields
    <*> withDefault none ["useTabs", "use_tabs"] (optional flag) fields
    <*> withDefault none ["newLineKind", "new_line_kind"] (optional NewLineKind.check) fields

def ofValue : Value → Schema.Checked GlobalConfig := Schema.record ofFields

def toFields (config : GlobalConfig) : Fields :=
  let field := fun (name : String) (value : Option Value) =>
    (value.map fun v => (Key.text name, v)).toList
  field "lineWidth" (config.lineWidth.map .int) ++
    field "indentWidth" (config.indentWidth.map .int) ++
    field "useTabs" (config.useTabs.map .flag) ++
    field "newLineKind" (config.newLineKind.map fun kind => .text kind.text)

end GlobalConfig

structure Diagnostic where
  propertyName : String
  message : String
  deriving DecidableEq

namespace Diagnostic

open Schema in
def ofFields (fields : Fields) : Checked Diagnostic :=
  Diagnostic.mk <$> required ["propertyName"] text fields <*> required ["message"] text fields

def ofValue : Value → Schema.Checked Diagnostic := Schema.record ofFields

def text (d : Diagnostic) : String := d.propertyName ++ ": " ++ d.message

end Diagnostic

end PluginKit
