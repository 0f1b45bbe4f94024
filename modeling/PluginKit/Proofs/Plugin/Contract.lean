import PluginKit.Proofs.Json.Ascii
import PluginKit.Proofs.Plugin.Abi
import PluginKit.Proofs.Plugin.Session

/-!
What plugins agree to do beside moving bytes. They keep what is handed over: configurations, overrides and
paths, in a `Ledger`. `Implements` says that a plugin formats as some function of these does.
-/

namespace PluginKit

variable {σ κ : Type}

/-- What has been handed over and is still held. Schema 3 has one configuration, in two parts; schema 4 has
them by number. -/
structure Ledger where
  globals : Option (List UInt8)
  plugin : Option (List UInt8)
  registered : Int → Option (List UInt8)
  override : Option (List UInt8)
  path : Option (List UInt8)

namespace Ledger

def empty : Ledger := ⟨none, none, fun _ => none, none, none⟩

def after (l : Ledger) (name : String) (args : List Int) (shared : List UInt8) : Ledger :=
  match name, args with
  | "reset_config", _ => { l with globals := none, plugin := none }
  | "set_global_config", _ => { l with globals := some shared }
  | "set_plugin_config", _ => { l with plugin := some shared }
  | "register_config", [id] =>
    { l with registered := fun n => if n = id then some shared else l.registered n }
  | "release_config", [id] => { l with registered := fun n => if n = id then none else l.registered n }
  | "set_override_config", _ => { l with override := some shared }
  | "set_file_path", _ => { l with path := some shared }
  | _, _ => l

/-- What a call does. An override is used up as soon as formatting begins; all else takes a return. -/
def call (l : Ledger) (name : String) (args : List Int) (shared : List UInt8) (returned : Bool) : Ledger :=
  let entered := if name = "format" then { l with override := none } else l
  if returned then entered.after name args shared else entered

section

variable (l : Ledger) (args : List Int) (shared : List UInt8) (id : Int)

@[simp] theorem call_reset :
    l.call "reset_config" args shared true = { l with globals := none, plugin := none } := rfl

@[simp] theorem call_setGlobals :
    l.call "set_global_config" args shared true = { l with globals := some shared } := rfl

@[simp] theorem call_setPlugin :
    l.call "set_plugin_config" args shared true = { l with plugin := some shared } := rfl

@[simp] theorem call_register : l.call "register_config" [id] shared true =
    { l with registered := fun n => if n = id then some shared else l.registered n } := rfl

@[simp] theorem call_release : l.call "release_config" [id] shared true =
    { l with registered := fun n => if n = id then none else l.registered n } := rfl

@[simp] theorem call_setOverride :
    l.call "set_override_config" args shared true = { l with override := some shared } := rfl

@[simp] theorem call_setPath :
    l.call "set_file_path" args shared true = { l with path := some shared } := rfl

@[simp] theorem call_format (returned : Bool) :
    l.call "format" args shared returned = { l with override := none } := by
  cases returned <;> rfl

end

def InForce (l : Ledger) (transfer : Transfer) (args : List Int) (c : Configuration) : Prop :=
  match transfer with
  | .direct => ∃ id, args = [id] ∧ l.registered id = some (Json.bytes c.record)
  | _ => l.globals = some (Json.bytes (.object c.globals)) ∧ l.plugin = some (Json.bytes (.object c.plugin))

theorem inForce_congr {l l' : Ledger} {transfer : Transfer} {args : List Int} {c : Configuration}
    (globals : l'.globals = l.globals) (plugin : l'.plugin = l.plugin) (registered : l'.registered = l.registered) :
    l'.InForce transfer args c ↔ l.InForce transfer args c := by
  cases transfer <;> simp only [InForce, globals, plugin, registered]

end Ledger

/-! ## Room -/

def View.FitsValue (v : View σ κ) (value : Value) : Prop := ∀ text, Json.write value = .ok text → v.Fits text

def Configuration.values (c : Configuration) : Transfer → List Value
  | .direct => [c.record]
  | _ => [.object c.globals, .object c.plugin]

theorem Configuration.values_of_ne_direct {transfer : Transfer} (other : transfer ≠ .direct) (c : Configuration) :
    c.values transfer = [.object c.globals, .object c.plugin] := by
  cases transfer <;> first | rfl | exact absurd rfl other

def View.FitsConfig (v : View σ κ) (transfer : Transfer) (c : Configuration) : Prop :=
  ∀ value ∈ c.values transfer, v.FitsValue value

structure View.FitsRequest (v : View σ κ) (r : FormatRequest) : Prop where
  override : r.override.isVoid = false → v.FitsValue r.override
  path : v.Fits r.path
  text : v.Fits r.text

/-- There is room for what an operation sends, beside the empty configuration. -/
def Operation.Fits (v : View σ κ) (transfer : Transfer) : Operation → Prop
  | .configure globals plugin => ∀ c : Configuration, globals.toFields = .ok c.globals →
      plugin.toMapping = .ok c.plugin → v.FitsConfig transfer c
  | .format request text override => ∀ r, request.coerce text override = .ok (.request r) → v.FitsRequest r
  | _ => True

section

variable {v : View σ κ} (roomy : ∀ n, v.room n)

include roomy

theorem View.fitsConfig_of_roomy (transfer : Transfer) (c : Configuration) : v.FitsConfig transfer c :=
  fun _ _ _ _ _ _ => roomy _

theorem View.fitsRequest_of_roomy (r : FormatRequest) : v.FitsRequest r :=
  ⟨fun _ _ _ _ _ => roomy _, fun _ _ => roomy _, fun _ _ => roomy _⟩

theorem Operation.fits_of_roomy (transfer : Transfer) (operation : Operation) : operation.Fits v transfer := by
  cases operation with
  | configure globals plugin => exact fun c _ _ => View.fitsConfig_of_roomy roomy transfer c
  | format request text override => exact fun r _ => View.fitsRequest_of_roomy roomy r
  | _ => trivial

end

/-! ## Formatting -/

inductive Verdict where
  | noChange
  | change (text : String)
  | error (message : String)

abbrev Behaviour := Configuration → Option Value → String → String → Verdict

def hostCalls : List String :=
  ["get_plugin_schema_version", "dprint_plugin_version_4", "get_wasm_memory_buffer_size", "reset_config",
    "set_global_config", "set_plugin_config", "register_config", "release_config", "set_override_config",
    "set_file_path", "format", "get_formatted_text", "get_error_text", "get_resolved_config",
    "get_config_diagnostics", "get_plugin_info", "get_license_text"]

def Formatter.configCalls : List String :=
  ["reset_config", "set_global_config", "set_plugin_config", "register_config", "release_config"]

theorem Formatter.configCalls_subset : Formatter.configCalls ⊆ hostCalls := by simp [Formatter.configCalls, hostCalls]

def Transfer.requests (transfer : Transfer) : List String :=
  ["set_override_config", "set_file_path", "format", "get_formatted_text", "get_error_text"] ++
    match transfer with
    | .direct => ["register_config", "release_config"]
    | _ => ["set_global_config", "set_plugin_config"]

namespace Abi

/-- A text is ready to be fetched: the function that announces it gives its length and shares its bytes. -/
def Offers (g : Guest σ) (v : View σ κ) (name : String) (text : String) (m : Memory) (s : σ) : Prop :=
  ∀ {reply m' s'}, g.Returns name [] m s reply m' s' →
    reply = .int (Utf8.bytes text).length ∧ v.shared m' s' = Utf8.bytes text

def Delivers (g : Guest σ) (v : View σ κ) (reply : Reply) (m : Memory) (s : σ) : Verdict → Prop
  | .noChange => reply = .int 0
  | .change text => reply = .int 1 ∧ Offers g v "get_formatted_text" text m s
  | .error message => reply = .int 2 ∧ Offers g v "get_error_text" message m s

/-- A plugin that formats as `F` does: it never traps, holds what it is given, and answers by it. -/
structure Implements (F : Behaviour) (g : Guest σ) (v : View σ Ledger) (transfer : Transfer) : Prop where
  carries : Carries g v transfer
  ready : Ready g v transfer
  exported : ∀ name ∈ transfer.requests, g.exports name = some .function
  resettable : (g.exports "reset_config").isSome → g.exports "reset_config" = some .function
  completes : ∀ {name args m s}, name ∈ hostCalls → v.sound m s → g.Completes name args m s
  holds : ∀ {name args m s reply m' s'}, name ∈ hostCalls → v.sound m s →
    g.Returns name args m s reply m' s' →
    v.sound m' s' ∧ v.kept m' s' = (v.kept m s).call name args (v.shared m s) true
  formats : ∀ {c override path text args m s reply m' s'}, v.sound m s →
    (v.kept m s).InForce transfer args c → (v.kept m s).override = override.map Json.bytes →
    (v.kept m s).path = some (Utf8.bytes path) → v.shared m s = Utf8.bytes text →
    g.Returns "format" args m s reply m' s' → Delivers g v reply m' s' (F c override path text)

end Abi

end PluginKit
