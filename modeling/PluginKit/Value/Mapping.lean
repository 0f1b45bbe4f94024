import PluginKit.Text.Surrogate
import PluginKit.Value.Basic

/-!
Going through values: what a value has to iterate over, and which values can be taken as a mapping.
-/

namespace PluginKit

inductive MappingFault where
  | notIterable (kind : String)
  | notSequence (index : Nat)
  | notPair (index length : Nat)
  | unhashable (kind : String)
  deriving DecidableEq

def MappingFault.message : MappingFault → String
  | .notIterable kind => "'" ++ kind ++ "' object is not iterable"
  | .notSequence index =>
    "cannot convert dictionary update sequence element #" ++ toString index ++ " to a sequence"
  | .notPair index length =>
    "dictionary update sequence element #" ++ toString index ++ " has length " ++ toString length ++
      "; 2 is required"
  | .unhashable kind => "unhashable type: '" ++ kind ++ "'"

namespace Value

def ofKey : Key → Value
  | .text s => .text s
  | .int n => .int n
  | .float x => .float x
  | .flag b => .flag b
  | .null => .null
  | .date d => .date d
  | .moment m => .moment m
  | .bytes data => .bytes data

def toKey? : Value → Option Key
  | .text s => some (.text s)
  | .int n => some (.int n)
  | .float x => some (.float x)
  | .flag b => some (.flag b)
  | .null => some .null
  | .date d => some (.date d)
  | .moment m => some (.moment m)
  | .bytes data => some (.bytes data)
  | _ => none

def iterate? : Value → Option (List Value)
  | .list items => some items
  | .pair a b => some [a, b]
  | .set members => some (members.map ofKey)
  | .object fields => some (fields.map fun field => ofKey field.1)
  | .bytes data => some (data.map fun b => .int b.toNat)
  | .text s => some ((Text.pieces s.toList).map fun c => .text (String.ofList c))
  | _ => none

def pairsFrom (index : Nat) (fields : Fields) : List Value → Except MappingFault Fields
  | [] => .ok fields
  | v :: rest =>
    match v.iterate? with
    | none => .error (.notSequence index)
    | some [k, value] => match k.toKey? with
      | some key => pairsFrom (index + 1) (fields.put key value) rest
      | none => .error (.unhashable k.kind)
    | some items => .error (.notPair index items.length)

/-- A value taken as a mapping: void values are empty, an object stands for itself, and anything else
must go through pairs. -/
def toMapping (v : Value) : Except MappingFault Fields :=
  if v.isVoid then .ok []
  else match v with
    | .object fields => .ok fields
    | v => match v.iterate? with
      | some items => pairsFrom 0 [] items
      | none => .error (.notIterable v.kind)

end Value

end PluginKit
