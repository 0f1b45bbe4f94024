import PluginKit.Number.Shortest
import PluginKit.Text.Printable
import PluginKit.Value.Basic

/-!
The literal text of a value, as log records and tables show it.
-/

namespace PluginKit

def intText (n : Int) : String :=
  if n < 0 then "-" ++ String.ofList (Nat.toDigits 10 n.natAbs)
  else String.ofList (Nat.toDigits 10 n.natAbs)

def flagLiteral (b : Bool) : String := if b then "True" else "False"

def Key.literal : Key → String
  | .text s => Text.quoted s
  | .int n => intText n
  | .float x => x.text
  | .flag b => flagLiteral b
  | .null => "None"
  | .date d => d.literal
  | .moment m => m.literal
  | .bytes data => Text.quotedBytes data

namespace Value

mutual

def literal : Value → String
  | .null => "None"
  | .flag b => flagLiteral b
  | .int n => intText n
  | .float x => x.text
  | .text s => Text.quoted s
  | .bytes data => Text.quotedBytes data
  | .date d => d.literal
  | .moment m => m.literal
  | .pair a b => "(" ++ literal a ++ ", " ++ literal b ++ ")"
  | .set members =>
    if members.isEmpty then "set()"
    else "\x7b" ++ ", ".intercalate (members.map Key.literal) ++ "\x7d"
  | .list items => "[" ++ literalItems items ++ "]"
  | .object fields => "\x7b" ++ literalFields fields ++ "\x7d"

def literalItems : List Value → String
  | [] => ""
  | [v] => literal v
  | v :: w :: rest => literal v ++ ", " ++ literalItems (w :: rest)

def literalFields : List (Key × Value) → String
  | [] => ""
  | [(k, v)] => k.literal ++ ": " ++ literal v
  | (k, v) :: field :: rest => k.literal ++ ": " ++ literal v ++ ", " ++ literalFields (field :: rest)

end

def display : Value → String
  | .text s => s
  | .date d => d.text
  | .moment m => m.text
  | v => v.literal

end PluginKit.Value
