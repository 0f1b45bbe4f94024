import PluginKit.Script.Spec

/-!
Running scripted plugins. The state of one is what it was sent, the configuration number it was given
and the rule it applied last. On schema 3 the shared bytes are kept apart from the memory, on schema 4
they lie in the memory at a fixed place, where the host writes them. A function that would touch
memory outside its bounds traps and changes nothing.
-/

namespace PluginKit.Script

structure State where
  shared : List UInt8
  sharedLength : Nat
  globals : List UInt8
  plugin : List UInt8
  override : List UInt8
  path : List UInt8
  text : List UInt8
  id : Int
  out : Output

def initial : State := ⟨[], 0, [], [], [], [], [], -1, ⟨[], none⟩⟩

def State.slot (s : State) : Slot → List UInt8
  | .globals => s.globals
  | .plugin => s.plugin
  | .override => s.override
  | .path => s.path
  | .text => s.text

def Output.render (out : Output) (s : State) : List UInt8 :=
  out.parts.flatMap fun
    | .bytes data => data
    | .slot name => s.slot name

/-! ## Memory -/

def memorySize : Nat := 1048576

def zeros : Memory := Memory.blank memorySize

def address (pointer : Int) : Nat := (pointer % 0x100000000).toNat

def fits (m : Memory) (pointer : Int) (count : Nat) : Bool := address pointer + count ≤ m.size

def load? (m : Memory) (pointer : Int) (count : Nat) : Option (List UInt8) :=
  if fits m pointer count then
    some (m.slice (address pointer) ((address pointer + count : Nat) : Int))
  else none

def store? (m : Memory) (pointer : Int) (data : List UInt8) : Option Memory :=
  if fits m pointer data.length then some (m.overwrite (address pointer) data) else none

/-! ## Functions -/

abbrev Effect := Option (Reply × Memory × State)

def sharedRoom : Nat := 65536

namespace Spec

variable (spec : Spec)

def shared? (m : Memory) (s : State) : Option (List UInt8) :=
  match spec.schema with
  | .three => some s.shared
  | .four => load? m spec.sharedPointer s.sharedLength

def keep (put : State → List UInt8 → State) (m : Memory) (s : State) : Effect := do
  let data ← spec.shared? m s
  return (.nothing, m, put s data)

def produce (out : Output) (m : Memory) (s : State) : Effect := do
  let data := out.render s
  let reply : Reply := .int (out.length.getD data.length)
  match spec.schema with
  | .three => return (reply, m, { s with shared := data })
  | .four =>
    if !fits m spec.sharedPointer sharedRoom then none
    let cleared ← store? m spec.sharedPointer (List.replicate sharedRoom 0)
    let written ← store? cleared spec.sharedPointer data
    return (reply, written, { s with sharedLength := data.length })

def actionFor (text : List UInt8) : Action :=
  match spec.rules.find? fun rule => rule.text == text with
  | some rule => rule.action
  | none => spec.otherwise

def hostCall (name : String) : ImportCall :=
  match spec.imports.reverse.find? fun i => i.target.name = name with
  | some i => ⟨i.target.space, name, (List.range i.params).map fun k => .int (k + 1 : Nat)⟩
  | none => ⟨hostSpace, name, []⟩

def format (args : List Int) (m : Memory) (s : State) : CallResult State :=
  let wrongId := spec.schema == .four && args.head? != some s.id
  match (if wrongId then none else spec.shared? m s) with
  | none => ⟨.trapped, m, s, []⟩
  | some text =>
    let kept := { s with text := text }
    match spec.actionFor text with
    | .trap => ⟨.trapped, m, { kept with out := ⟨[], none⟩ }, []⟩
    | .host name => ⟨.returned (.int 0), m, { kept with out := ⟨[], none⟩ }, [spec.hostCall name]⟩
    | .answer code out => ⟨.returned (.int code), m, { kept with out := out }, []⟩

def common (name : String) (m : Memory) (s : State) : Option Effect :=
  match name with
  | "set_file_path" => some (spec.keep (fun s data => { s with path := data }) m s)
  | "set_override_config" => some (spec.keep (fun s data => { s with override := data }) m s)
  | "get_plugin_info" => some (spec.produce spec.info m s)
  | "get_license_text" => some (spec.produce spec.license m s)
  | "get_resolved_config" => some (spec.produce spec.resolved m s)
  | "get_config_diagnostics" =>
    let out := match spec.customDiagnostics with
      | some custom => if s.plugin.length = 2 then spec.diagnostics else custom
      | none => spec.diagnostics
    some (spec.produce out m s)
  | "get_formatted_text" => some (spec.produce s.out m s)
  | "get_error_text" => some (spec.produce s.out m s)
  | _ => none

def natArg (args : List Int) (index : Nat) : Nat := ((args[index]?).getD 0).toNat

def buffered (name : String) (args : List Int) (m : Memory) (s : State) : Option Effect :=
  match name with
  | "get_wasm_memory_buffer" => some (some (.int spec.bufferPointer, m, s))
  | "get_wasm_memory_buffer_size" => some (some (.int spec.bufferSize, m, s))
  | "clear_shared_bytes" => some (some (.nothing, m, { s with shared := [] }))
  | "add_to_shared_bytes_from_buffer" => some do
    let data ← load? m spec.bufferPointer (natArg args 0)
    return (.nothing, m, { s with shared := s.shared ++ data })
  | "set_buffer_with_shared_bytes" => some do
    let count := natArg args 1
    let data := (s.shared.drop (natArg args 0)).take count
    let written ← store? m spec.bufferPointer (data ++ List.replicate (count - data.length) 0)
    return (.nothing, written, s)
  | "reset_config" => some (some (.nothing, m, { s with globals := [], plugin := [] }))
  | "set_global_config" => some (spec.keep (fun s data => { s with globals := data }) m s)
  | "set_plugin_config" => some (spec.keep (fun s data => { s with plugin := data }) m s)
  | _ => none

def direct (name : String) (args : List Int) (m : Memory) (s : State) : Option Effect :=
  match name with
  | "get_shared_bytes_ptr" => some (some (.int spec.sharedPointer, m, s))
  | "clear_shared_bytes" =>
    some (some (.int spec.sharedPointer, m, { s with sharedLength := natArg args 0 }))
  | "register_config" =>
    some (spec.keep (fun s data => { s with globals := data, id := (args.head?).getD 0 }) m s)
  | "release_config" =>
    some (some (.nothing, m, if args.head? = some s.id then { s with id := -1 } else s))
  | _ => none

def version (name : String) (m : Memory) (s : State) : Option Effect :=
  (spec.versions.find? fun v => v.1 = name).map fun v => some (v.2, m, s)

def function? (name : String) (args : List Int) (m : Memory) (s : State) :
    Option (CallResult State) :=
  if name = "format" then some (spec.format args m s)
  else
    let own := match spec.schema with
      | .three => spec.buffered name args m s
      | .four => spec.direct name args m s
    (spec.version name m s <|> spec.common name m s <|> own).map fun
      | some (reply, memory, state) => ⟨.returned reply, memory, state, []⟩
      | none => ⟨.trapped, m, s, []⟩

def convert (name : String) (reply : Reply) : Reply :=
  match reply, (spec.results.find? fun r => r.1 = name).map Prod.snd with
  | .int n, some .float => .float (Binary64.ofInt n)
  | .int n, some .pair => .many [n, 7]
  | _, some .nothing => .nothing
  | reply, _ => reply

def functionNames : List String :=
  let own := match spec.schema with
    | .three => "reset_config" :: bufferedExports
    | .four => directExports
  spec.versions.map Prod.fst ++ "set_override_config" :: commonExports ++ own

def exports (name : String) : Option Export :=
  if spec.notFunctions.contains name then some .other
  else if spec.omitted.contains name then none
  else if name = "memory" then some .memory
  else if spec.functionNames.contains name then some .function
  else none

def takes (name : String) (_count : Nat) : Bool := !spec.extraParams.contains name

/-- Calls a function. A traced one reports to the host before anything else happens; one with
parameters that the host does not pass cannot be entered. -/
def call (name : String) (args : List Int) (m : Memory) (s : State) : CallResult State :=
  if spec.extraParams.contains name then ⟨.trapped, m, s, []⟩
  else
    let traced : List ImportCall :=
      if spec.trace then [⟨hostSpace, "t_" ++ name, args.map .int⟩] else []
    if spec.trapping.contains name then ⟨.trapped, m, s, traced⟩
    else match spec.function? name args m s with
      | none => ⟨.trapped, m, s, traced⟩
      | some result =>
        let outcome := match result.outcome with
          | .returned reply => .returned (spec.convert name reply)
          | .trapped => .trapped
        ⟨outcome, result.memory, result.state, traced ++ result.imports⟩

def toModule : Module State :=
  { imports := spec.imports.map (·.target)
    guest := ⟨spec.exports, spec.takes, spec.call⟩
    start := if spec.startTraps then none else some (zeros, initial) }

end Spec

def nullModule : Module State :=
  ⟨[], ⟨fun _ => none, fun _ _ => false, fun _ _ m s => ⟨.trapped, m, s, []⟩⟩, some (Memory.blank 0, initial)⟩

def engine : Engine State := fun bytes =>
  if bytes = emptyModule then some nullModule else (decode? bytes).map Spec.toModule

end PluginKit.Script
