import PluginKit.Value.Basic

/-!
Faults found while checking values against what a record expects, and checks that gather all of them. A field of a
record may go by more than one name; the first name that is present counts, whatever its value, and faults are placed at
that name. Fields that no rule asks for are ignored.
-/

namespace PluginKit.Schema

inductive Step where
  | field (name : String)
  | index (n : Int)
  deriving DecidableEq

inductive Kind where
  | missing
  | recordType
  | attributesType
  | textType
  | textUnicode
  | intType
  | intParsing
  | intSize
  | intFromFloat
  | finiteNumber
  | flagType
  | flagParsing
  | floatType
  | floatParsing
  | mappingType
  | listType
  | choice
  | pathType
  | bytesType
  | tagMissing
  | tagInvalid
  | invalidJson
  | invalidValue
  deriving DecidableEq

def Kind.code : Kind → String
  | .missing => "missing"
  | .recordType => "model_type"
  | .attributesType => "model_attributes_type"
  | .textType => "string_type"
  | .textUnicode => "string_unicode"
  | .intType => "int_type"
  | .intParsing => "int_parsing"
  | .intSize => "int_parsing_size"
  | .intFromFloat => "int_from_float"
  | .finiteNumber => "finite_number"
  | .flagType => "bool_type"
  | .flagParsing => "bool_parsing"
  | .floatType => "float_type"
  | .floatParsing => "float_parsing"
  | .mappingType => "dict_type"
  | .listType => "list_type"
  | .choice => "literal_error"
  | .pathType => "path_type"
  | .bytesType => "bytes_type"
  | .tagMissing => "union_tag_not_found"
  | .tagInvalid => "union_tag_invalid"
  | .invalidJson => "json_invalid"
  | .invalidValue => "value_error"

structure Fault where
  kind : Kind
  path : List Step
  deriving DecidableEq

inductive Checked (α : Type) where
  | valid (value : α)
  | invalid (faults : List Fault)

namespace Checked

def fault {α : Type} (kind : Kind) : Checked α := .invalid [⟨kind, []⟩]

def map {α β : Type} (f : α → β) : Checked α → Checked β
  | .valid a => .valid (f a)
  | .invalid faults => .invalid faults

def both {α β : Type} : Checked (α → β) → Checked α → Checked β
  | .valid f, .valid a => .valid (f a)
  | .valid _, .invalid faults => .invalid faults
  | .invalid faults, .valid _ => .invalid faults
  | .invalid left, .invalid right => .invalid (left ++ right)

def under {α : Type} (step : Step) : Checked α → Checked α
  | .valid a => .valid a
  | .invalid faults => .invalid (faults.map fun fault => ⟨fault.kind, step :: fault.path⟩)

def toExcept {α : Type} : Checked α → Except (List Fault) α
  | .valid a => .ok a
  | .invalid faults => .error faults

instance : Functor Checked := ⟨fun f c => c.map f, fun a c => c.map fun _ => a⟩

instance : Pure Checked := ⟨.valid⟩

instance : Seq Checked := ⟨fun f a => both f (a ())⟩

end Checked

/-! ## Records -/

def present? (fields : Fields) : List String → Option (String × Value)
  | [] => none
  | name :: others => match fields.get? name with
    | some value => some (name, value)
    | none => present? fields others

def required {α : Type} (names : List String) (check : Value → Checked α) (fields : Fields) :
    Checked α :=
  match present? fields names with
  | some (name, value) => (check value).under (.field name)
  | none => .invalid [⟨.missing, [.field (names.headD "")]⟩]

def withDefault {α : Type} (default : α) (names : List String) (check : Value → Checked α)
    (fields : Fields) : Checked α :=
  match present? fields names with
  | some (name, value) => (check value).under (.field name)
  | none => .valid default

def record {α : Type} (read : Fields → Checked α) : Value → Checked α
  | .object fields => read fields
  | _ => .fault .recordType

end PluginKit.Schema
