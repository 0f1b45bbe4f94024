import PluginKit.Json.Parser
import PluginKit.Json.Printer
import PluginKit.Plugin.Load
import PluginKit.Text.Digit

/-!
Scripted plugins: plugins described by data instead of machine code. A script says which functions a
plugin exports, what they answer, and how it treats texts. Scripts are read from objects and have a
form as module bytes, so they can be stored and loaded like any other module.
-/

namespace PluginKit.Script

inductive Slot where
  | globals
  | plugin
  | override
  | path
  | text
  deriving DecidableEq

def Slot.ofName? : String → Option Slot
  | "global" => some .globals
  | "plugin" => some .plugin
  | "override" => some .override
  | "path" => some .path
  | "text" => some .text
  | _ => none

inductive Part where
  | bytes (data : List UInt8)
  | slot (s : Slot)

structure Output where
  parts : List Part
  length : Option Int

def Output.ofText (s : String) : Output := ⟨[.bytes (Utf8.encode s)], none⟩

inductive Action where
  | answer (code : Int) (out : Output)
  | trap
  | host (name : String)

structure Rule where
  text : List UInt8
  action : Action

inductive ResultKind where
  | int
  | float
  | nothing
  | pair
  deriving DecidableEq

structure ScriptImport where
  target : Import
  params : Nat

structure Spec where
  schema : SchemaVersion
  versions : List (String × Reply)
  omitted : List String
  notFunctions : List String
  trapping : List String
  extraParams : List String
  results : List (String × ResultKind)
  imports : List ScriptImport
  startTraps : Bool
  bufferSize : Int
  bufferPointer : Int
  sharedPointer : Int
  info : Output
  license : Output
  resolved : Output
  diagnostics : Output
  customDiagnostics : Option Output
  rules : List Rule
  otherwise : Action
  trace : Bool

/-! ## Texts that a script may leave out -/

def defaultInfo : String :=
  "\x7b\"name\":\"dprint-plugin-json\",\"version\":\"0.9.0\",\"configKey\":\"json\"," ++
    "\"fileExtensions\":[\"json\",\"jsonc\"],\"fileNames\":[]," ++
    "\"helpUrl\":\"https://dprint.dev/plugins/json\"," ++
    "\"configSchemaUrl\":\"https://plugins.dprint.dev/dprint/dprint-plugin-json/0.9.0/schema.json\"," ++
    "\"updateUrl\":\"https://plugins.dprint.dev/dprint/dprint-plugin-json/latest.json\"\x7d"

def defaultLicense : String := "MIT License\n\nCopyright (c) 2020 David Sherret\n"

def defaultResolved : String :=
  "\x7b\"lineWidth\":120,\"useTabs\":false,\"indentWidth\":2,\"newLineKind\":\"lf\"," ++
    "\"trailingCommas\":\"jsonc\"\x7d"

def defaultRules : List Rule :=
  [⟨Utf8.encode "\x7b test: 2, \x7d", .answer 1 (.ofText "\x7b \"test\": 2 \x7d\n")⟩,
    ⟨Utf8.encode "\x7b \"test\": 2 \x7d\n", .answer 0 ⟨[], none⟩⟩,
    ⟨Utf8.encode "\x7b panic \x7d", .trap⟩]

def defaultAction : Action := .answer 2 (.ofText "Line 1, column 1: Unexpected token")

/-! ## Reading scripts -/

def Part.ofValue? : Value → Option Part
  | .text s => some (.bytes (Utf8.encode s))
  | .object fields =>
    match Fields.get? fields "hex", Fields.get? fields "slot" with
    | some (.text digits), _ => (Text.bytesOfHex? digits.toList).map .bytes
    | none, some (.text name) => (Slot.ofName? name).map .slot
    | _, _ => none
  | _ => none

def partsOfValue? : Value → Option (List Part)
  | .list items => items.mapM Part.ofValue?
  | v => (Part.ofValue? v).map ([·])

def Output.ofValue? (v : Value) : Option Output :=
  match v with
  | .object fields =>
    match Fields.get? fields "parts" with
    | some parts => do
      let length := match Fields.get? fields "len" with
        | some (.int n) => some n
        | _ => none
      return ⟨← partsOfValue? parts, length⟩
    | none => (partsOfValue? v).map (⟨·, none⟩)
  | _ => (partsOfValue? v).map (⟨·, none⟩)

def Action.ofFields? (fields : Fields) : Option Action :=
  match fields.get? "trap" with
  | some (.flag true) => some .trap
  | _ => match fields.get? "host" with
    | some (.text name) => some (.host name)
    | _ => do
      let out ← match fields.get? "out" with
        | some v => Output.ofValue? v
        | none => some ⟨[], none⟩
      match fields.get? "code" with
      | some (.int code) => return .answer code out
      | _ => return .answer 0 out

def Rule.ofValue? : Value → Option Rule
  | .object fields => do
    let parts ← partsOfValue? ((Fields.get? fields "text").getD (.text ""))
    let text := parts.flatMap fun
      | .bytes data => data
      | .slot _ => []
    return ⟨text, ← Action.ofFields? fields⟩
  | _ => none

def namesOf : Option Value → List String
  | some (.list items) => items.filterMap Value.text?
  | _ => []

def intOf (default : Int) : Option Value → Int
  | some (.int n) => n
  | _ => default

def outputOf? (default : String) : Option Value → Option Output
  | some v => Output.ofValue? v
  | none => some (.ofText default)

def ResultKind.ofName : String → ResultKind
  | "f64" => .float
  | "none" => .nothing
  | "pair" => .pair
  | _ => .int

def ScriptImport.ofValue? : Value → Option ScriptImport
  | .object fields =>
    let word := fun (name default : String) =>
      ((Fields.get? fields name).bind Value.text?).getD default
    some ⟨⟨word "module" hostSpace, word "name" "", word "kind" "func" = "func"⟩,
      (intOf 0 (Fields.get? fields "params")).toNat⟩
  | _ => none

def versionReply : Value → Reply
  | .int n => .int n
  | .float x => .float x
  | _ => .nothing

def versionOf? (exportName : String) (number : Int) : Value → Option (String × Reply)
  | .object fields =>
    some (((Fields.get? fields "export").bind Value.text?).getD exportName,
      versionReply ((Fields.get? fields "value").getD (.int number)))
  | _ => none

def Spec.ofFields? (fields : Fields) : Option Spec := do
  let schema : SchemaVersion := if intOf 3 (fields.get? "schema") = 4 then .four else .three
  let (exportName, number) : String × Int := match schema with
    | .three => ("get_plugin_schema_version", 3)
    | .four => ("dprint_plugin_version_4", 4)
  let versions ← match fields.get? "versions" with
    | some (.list items) => items.mapM (versionOf? exportName number)
    | _ => some [(exportName, .int number)]
  let imports ← match fields.get? "imports" with
    | some (.list items) => items.mapM ScriptImport.ofValue?
    | _ => some []
  let rules ← match fields.get? "rules" with
    | some (.list items) => items.mapM Rule.ofValue?
    | _ => some defaultRules
  let otherwise ← match fields.get? "default" with
    | some (.object action) => Action.ofFields? action
    | _ => some defaultAction
  let custom ← match fields.get? "custom_diagnostics" with
    | some v => (Output.ofValue? v).map some
    | none => some none
  return {
    schema := schema
    versions := versions
    omitted := namesOf (fields.get? "omit")
    notFunctions := namesOf (fields.get? "nonfunc")
    trapping := namesOf (fields.get? "trap")
    extraParams := match fields.get? "extra_params" with
      | some (.object counts) => counts.filterMap fun
        | (.text name, .int n) => if 0 < n then some name else none
        | _ => none
      | _ => []
    results := match fields.get? "results" with
      | some (.object kinds) => kinds.filterMap fun
        | (.text name, .text kind) => some (name, ResultKind.ofName kind)
        | _ => none
      | _ => []
    imports := imports
    startTraps := !((fields.get? "start_trap").getD .null).isVoid
    bufferSize := intOf 8 (fields.get? "buffer_size")
    bufferPointer := intOf 16 (fields.get? "buffer_ptr")
    sharedPointer := intOf 65536 (fields.get? "shared_ptr")
    info := ← outputOf? defaultInfo (fields.get? "info")
    license := ← outputOf? defaultLicense (fields.get? "license")
    resolved := ← outputOf? defaultResolved (fields.get? "resolved")
    diagnostics := ← outputOf? "[]" (fields.get? "diagnostics")
    customDiagnostics := custom
    rules := rules
    otherwise := otherwise
    trace := !((fields.get? "trace").getD .null).isVoid }

/-! ## Scripts as modules -/

def emptyModule : List UInt8 := moduleHeader ++ [0x01, 0x00, 0x00, 0x00]

def lengthBytes (n : Nat) : List UInt8 :=
  [UInt8.ofNat n, UInt8.ofNat (n / 256), UInt8.ofNat (n / 65536), UInt8.ofNat (n / 16777216)]

/-- A script as module bytes: the header, the length of the script's text, the text. -/
def encode (script : Value) : List UInt8 :=
  let text := Utf8.encode (Json.text script)
  emptyModule ++ lengthBytes text.length ++ text

def decode? (bytes : List UInt8) : Option Spec :=
  let body := bytes.drop emptyModule.length
  let text := body.drop 4
  if !emptyModule.isPrefixOf bytes || body.take 4 ≠ lengthBytes text.length then none
  else match Utf8.decode text with
    | .error _ => none
    | .ok json => match Json.parse json with
      | .ok (.object fields) => Spec.ofFields? fields
      | _ => none

end PluginKit.Script
