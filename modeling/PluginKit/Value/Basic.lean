import PluginKit.Number.Binary64
import PluginKit.Value.Timestamp

/-!
Dynamic values: what JSON texts and configuration files hold. Objects keep the order of their fields.
Keys of JSON objects are texts; a configuration file may also use numbers, flags, nothing, days and bytes,
and it knows sets and pairs.
-/

namespace PluginKit

inductive Key where
  | text (s : String)
  | int (n : Int)
  | float (x : Binary64)
  | flag (b : Bool)
  | null
  | date (d : Date)
  | moment (m : Moment)
  | bytes (data : List UInt8)
  deriving DecidableEq

namespace Key

def number? : Key → Option Int
  | .int n => some n
  | .flag b => some (if b then 1 else 0)
  | .float x => x.toInt?
  | _ => none

def isText : Key → Bool
  | .text _ => true
  | _ => false

def same (a b : Key) : Bool :=
  match a, b with
  | .text s, .text t => s == t
  | .null, .null => true
  | .float x, .float y => x.same y
  | .date d, .date e => d == e
  | .moment m, .moment n => m.same n
  | .bytes d, .bytes e => d == e
  | _, _ => match a.number?, b.number? with
    | some m, some n => m == n
    | _, _ => false

end Key

inductive Value where
  | null
  | flag (b : Bool)
  | int (n : Int)
  | float (x : Binary64)
  | text (s : String)
  | bytes (data : List UInt8)
  | date (d : Date)
  | moment (m : Moment)
  | pair (first second : Value)
  | set (members : List Key)
  | list (items : List Value)
  | object (fields : List (Key × Value))

instance : Inhabited Value := ⟨.null⟩

abbrev Fields := List (Key × Value)

namespace Fields

def find? (fields : Fields) (key : Key) : Option Value :=
  (List.find? (fun field => field.1.same key) fields).map Prod.snd

def get? (fields : Fields) (name : String) : Option Value := find? fields (.text name)

def put : Fields → Key → Value → Fields
  | [], key, value => [(key, value)]
  | (k, v) :: rest, key, value =>
    if k.same key then (k, value) :: rest else (k, v) :: put rest key value

def erase (fields : Fields) (name : String) : Fields :=
  List.filter (fun field => !field.1.same (.text name)) fields

def ofPairs (pairs : List (Key × Value)) : Fields :=
  pairs.foldl (fun fields pair => put fields pair.1 pair.2) []

def named (pairs : List (String × Value)) : Fields :=
  pairs.map fun pair => (.text pair.1, pair.2)

end Fields

namespace Value

def kind : Value → String
  | .null => "NoneType"
  | .flag _ => "bool"
  | .int _ => "int"
  | .float _ => "float"
  | .text _ => "str"
  | .bytes _ => "bytes"
  | .date _ => "datetime.date"
  | .moment _ => "datetime.datetime"
  | .pair _ _ => "tuple"
  | .set _ => "set"
  | .list _ => "list"
  | .object _ => "dict"

/-- Nothing, false, zero and everything empty count as absent where an option may be left out. -/
def isVoid : Value → Bool
  | .null => true
  | .flag b => !b
  | .int n => n == 0
  | .float x => x.isZero
  | .text s => s.isEmpty
  | .bytes data => data.isEmpty
  | .date _ => false
  | .moment _ => false
  | .pair _ _ => false
  | .set members => members.isEmpty
  | .list items => items.isEmpty
  | .object fields => fields.isEmpty

def isNull : Value → Bool
  | .null => true
  | _ => false

def text? : Value → Option String
  | .text s => some s
  | _ => none

def fields? : Value → Option Fields
  | .object fields => some fields
  | _ => none

def record (pairs : List (String × Value)) : Value := .object (Fields.named pairs)

end Value

end PluginKit
