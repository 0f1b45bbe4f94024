import PluginKit.Log.Record
import PluginKit.Number.Binary64
import PluginKit.Plugin.Error

/-!
Calling a running plugin and moving bytes in and out of it. Schema 3 moves them in chunks through a
buffer of fixed size; schema 4 lets the host write and read the plugin's shared bytes in place.
-/

namespace PluginKit

structure Plugin (σ : Type) where
  guest : Guest σ
  memory : Memory
  state : σ
  journal : List Log.Record

abbrev Host (σ : Type) := ExceptT PluginError (StateM (Plugin σ))

/-- How bytes travel. A buffer may also have been reported with a size that is no integer. -/
inductive Transfer where
  | buffered (size : Nat) (positive : 0 < size)
  | fractional (size : Binary64)
  | direct

def Transfer.schema : Transfer → Nat
  | .buffered _ _ => 3
  | .fractional _ => 3
  | .direct => 4

namespace Plugin

variable {σ : Type}

def hostLogger : String := Log.partLogger "plugin.host"

def log (p : Plugin σ) (message : String) : Plugin σ :=
  { p with journal := p.journal ++ [⟨hostLogger, Log.debugLevel, message⟩] }

def hasExport (p : Plugin σ) (name : String) : Bool := (p.guest.exports name).isSome

def call (p : Plugin σ) (name : String) (args : List Int) : Except CallFault Reply × Plugin σ :=
  if p.guest.exports name ≠ some .function then (.error (.notFunction name), p)
  else
    let result := p.guest.call name args p.memory p.state
    let after : Plugin σ :=
      { guest := p.guest, memory := result.memory, state := result.state,
        journal := p.journal ++
          result.imports.map fun call => ⟨hostLogger, Log.debugLevel, call.message⟩ }
    match result.outcome with
    | .returned reply => (.ok reply, after)
    | .trapped => (.error (.trapped name), after.log (CallFault.trapped name).message)

end Plugin

namespace Host

variable {σ : Type}

def log (message : String) : Host σ Unit := modify (·.log message)

def call (stage : Stage) (name : String) (args : List Int) : Host σ Reply := fun p =>
  match p.call name args with
  | (.ok reply, after) => (.ok reply, after)
  | (.error fault, after) => (.error (.call stage fault), after)

/-! ## Sending -/

def write (pointer : Reply) (data : List UInt8) : Host σ Unit := fun p =>
  let attempt := fun (address : Int) =>
    match p.memory.write? address data with
    | some memory => (.ok (), { p with memory := memory })
    | none => (.error .outOfMemory, p)
  match pointer with
  | .int address => attempt address
  | .nothing => attempt 0
  | _ => (.error (.mismatch .slice), p)

def sendChunks (stage : Stage) (size : Nat) (positive : 0 < size) (data : List UInt8) :
    Host σ Unit :=
  if _empty : data = [] then pure ()
  else do
    let pointer ← call stage "get_wasm_memory_buffer" []
    write pointer (data.take size)
    let _ ← call stage "add_to_shared_bytes_from_buffer" [((data.take size).length : Int)]
    sendChunks stage size positive (data.drop size)
termination_by data.length
decreasing_by
  have := List.length_pos_iff.mpr _empty
  simp only [List.length_drop]
  omega

def sendBytes (stage : Stage) (transfer : Transfer) (data : List UInt8) : Host σ Unit :=
  match transfer with
  | .direct => do
    let pointer ← call stage "clear_shared_bytes" [(data.length : Int)]
    if data.isEmpty then pure () else write pointer data
  | .buffered size positive => do
    let _ ← call stage "clear_shared_bytes" [(data.length : Int)]
    sendChunks stage size positive data
  | .fractional _ => do
    let _ ← call stage "clear_shared_bytes" [(data.length : Int)]
    if data.isEmpty then pure () else throw (.mismatch .slice)

def send (stage : Stage) (transfer : Transfer) (text : String) : Host σ Unit :=
  match Utf8.encodeStrict text with
  | .ok data => sendBytes stage transfer data
  | .error fault => throw (.unencodable fault)

/-! ## Receiving -/

def read (pointer : Reply) (count : Reply) : Host σ (List UInt8) := fun p =>
  match pointer, count with
  | .int address, .int n => (.ok (p.memory.slice address (address + n)), p)
  | .many _, .many _ => (.error (.mismatch .slice), p)
  | .many _, other => (.error (.mismatch (.concat other.kind)), p)
  | .nothing, other => (.error (.mismatch (.sum "NoneType" other.kind)), p)
  | .int _, .float _ => (.error (.mismatch .slice), p)
  | .float _, .int _ => (.error (.mismatch .slice), p)
  | .float _, .float _ => (.error (.mismatch .slice), p)
  | left, right => (.error (.mismatch (.sum left.kind right.kind)), p)

def fetch (stage : Stage) (offset count : Nat) : Host σ (List UInt8) := do
  let _ ← call stage "set_buffer_with_shared_bytes" [(offset : Int), (count : Int)]
  let pointer ← call stage "get_wasm_memory_buffer" []
  read pointer (.int count)

/-- Receives up to `length` bytes in all, after those received before. A round reads fewer bytes than
asked for when the buffer reaches over the end of the memory. Rounds that bring nothing are repeated,
`patience` times at most. -/
def receiveChunks (stage : Stage) (size : Nat) (patience : Nat) (length : Nat)
    (received : List UInt8) : Host σ (List UInt8) :=
  if _short : received.length < length then do
    let chunk ← fetch stage received.length (min (length - received.length) size)
    if _idle : chunk = [] then
      match patience with
      | 0 => throw .stalled
      | k + 1 => receiveChunks stage size k length received
    else receiveChunks stage size patience length (received ++ chunk)
  else pure received
termination_by (length - received.length, patience)
decreasing_by
  · apply Prod.Lex.right
    omega
  · apply Prod.Lex.left
    have := List.length_pos_iff.mpr _idle
    simp only [List.length_append]
    omega

def refuseArgument {α : Type} (stage : Stage) (name : String) (count : Nat) (argument : Binary64) : Host σ α :=
  fun p =>
    if p.guest.exports name = some .function && p.guest.takes name count then
      (.error (.mismatch (.argument argument)), p)
    else match p.call name (List.replicate count 0) with
      | (.ok _, after) => (.error (.mismatch (.argument argument)), after)
      | (.error fault, after) => (.error (.call stage fault), after)

def refuseCount {α : Type} (stage : Stage) (count : Binary64) : Host σ α :=
  refuseArgument stage "set_buffer_with_shared_bytes" 2 count

/-- Receives towards a length that is a float. Rounds that fill the buffer are integers, but the rest that
remains for the last one is a float, too. -/
def refuseLength (stage : Stage) (size : Nat) (patience : Nat) (length : Binary64) (received : Nat) :
    Host σ (List UInt8) :=
  if _more : received + size < length.ceiling.toNat then do
    let chunk ← fetch stage received size
    if _idle : chunk = [] then
      match patience with
      | 0 => throw .stalled
      | k + 1 => refuseLength stage size k length received
    else refuseLength stage size patience length (received + chunk.length)
  else refuseCount stage (length.add (Binary64.ofInt received).negate)
termination_by (length.ceiling.toNat - received, patience)
decreasing_by
  · apply Prod.Lex.right
    omega
  · apply Prod.Lex.left
    have := List.length_pos_iff.mpr _idle
    omega

def receiveBytes (stage : Stage) (transfer : Transfer) (patience : Nat) (length : Reply) :
    Host σ (List UInt8) :=
  match transfer, length with
  | .direct, length => do
    let pointer ← call stage "get_shared_bytes_ptr" []
    read pointer length
  | .buffered size _, .int n => receiveChunks stage size patience n.toNat []
  | .fractional size, .int n =>
    if n ≤ 0 then pure []
    else if size.isFinite && size.truncate < n then refuseCount stage size
    else receiveChunks stage n.toNat patience n.toNat []
  | .buffered size _, .float x =>
    if x.isNaN || x.atMostZero then pure []
    else if x.isFinite then refuseLength stage size patience x 0
    else throw .stalled
  | .fractional size, .float x =>
    if x.isNaN || x.atMostZero then pure []
    else refuseCount stage (if size.below x then size else x)
  | _, other => throw (.mismatch (.less "int" other.kind))

def receive (stage : Stage) (transfer : Transfer) (patience : Nat) (length : Reply) :
    Host σ String := do
  let bytes ← receiveBytes stage transfer patience length
  match Utf8.decode bytes with
  | .ok text => pure text
  | .error fault => throw (.badText fault)

def receiveFrom (stage : Stage) (transfer : Transfer) (patience : Nat) (name : String)
    (args : List Int) : Host σ String := do
  let length ← call stage name args
  receive stage transfer patience length

end Host

end PluginKit
