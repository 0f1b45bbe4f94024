import PluginKit.Value.Literal

/-!
What a host sees of a plugin: the memory that they share, names of exports, and functions that can be called with
integers. The host reads slices of the memory, whose ends are counted from the back when negative and cut to the memory,
and writes only what fits. A call may change the plugin's memory and its own state, may call back into the host, and
returns or traps.
-/

namespace PluginKit

structure Memory where
  bytes : ByteArray

namespace Memory

def size (m : Memory) : Nat := m.bytes.size

def toList (m : Memory) : List UInt8 := m.bytes.data.toList

def blank (size : Nat) : Memory := ⟨⟨Array.replicate size 0⟩⟩

def clamp (m : Memory) (i : Int) : Nat :=
  if i < 0 then (i + m.size).toNat else min i.toNat m.size

def slice (m : Memory) (start stop : Int) : List UInt8 :=
  (m.bytes.extract (m.clamp start) (m.clamp stop)).data.toList

def overwrite (m : Memory) (address : Nat) (data : List UInt8) : Memory :=
  ⟨(ByteArray.mk data.toArray).copySlice 0 m.bytes address data.length⟩

/-- Writes at an address, negative ones counted from the back but not beyond the front. Refused if
the address or the end of the data lies outside. -/
def write? (m : Memory) (start : Int) (data : List UInt8) : Option Memory :=
  let address := if start < 0 then (start + m.size).toNat else start.toNat
  if m.size ≤ address || m.size < address + data.length then none
  else some (m.overwrite address data)

end Memory

/-! ## Calls -/

inductive Reply where
  | int (n : Int)
  | float (x : Binary64)
  | nothing
  | many (values : List Int)
  deriving DecidableEq

namespace Reply

def text : Reply → String
  | .int n => intText n
  | .float x => x.text
  | .nothing => "None"
  | .many values => "[" ++ String.intercalate ", " (values.map intText) ++ "]"

def kind : Reply → String
  | .int _ => "int"
  | .float _ => "float"
  | .nothing => "NoneType"
  | .many _ => "list"

def isNumber (reply : Reply) (n : Int) : Bool :=
  match reply with
  | .int m => m == n
  | .float x => x.toInt? == some n
  | _ => false

end Reply

structure ImportCall where
  space : String
  name : String
  args : List Value

inductive Outcome where
  | returned (reply : Reply)
  | trapped
  deriving DecidableEq

structure CallResult (σ : Type) where
  outcome : Outcome
  memory : Memory
  state : σ
  imports : List ImportCall

inductive Export where
  | function
  | memory
  | other
  deriving DecidableEq

/-- The code of a plugin whose own state is a `σ`: what it exports, how many arguments its functions take, and
what they do. -/
structure Guest (σ : Type) where
  exports : String → Option Export
  takes : String → Nat → Bool
  call : String → List Int → Memory → σ → CallResult σ

structure Import where
  space : String
  name : String
  isFunction : Bool
  deriving DecidableEq

structure Module (σ : Type) where
  imports : List Import
  guest : Guest σ
  start : Option (Memory × σ)

abbrev Engine (σ : Type) := List UInt8 → Option (Module σ)

def hostReply (results : Nat) : Reply :=
  match results with
  | 0 => .nothing
  | 1 => .int 0
  | n => .many (List.replicate n 0)

def argumentText (args : List Value) : String :=
  match args with
  | [v] => "(" ++ v.literal ++ ",)"
  | _ => "(" ++ String.intercalate ", " (args.map Value.literal) ++ ")"

def ImportCall.message (call : ImportCall) : String :=
  "Plugin called host import " ++ call.space ++ "." ++ call.name ++ argumentText call.args

end PluginKit
