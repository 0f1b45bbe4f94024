import PluginKit.Number.Shortest
import PluginKit.Number.Whole
import PluginKit.Text.Digit
import PluginKit.Text.Surrogate
import PluginKit.Value.Basic

/-!
Writing values as JSON: fields in their order, a blank after each separator, ASCII only. Days, times,
bytes and sets cannot be written, and neither can integers of too many digits; `unwritable?` finds the first
of them. `print` writes nothing in the place of the former. How deep a value is nested does not matter here:
`Limits` are those of reading, and there is none on writing.
-/

namespace PluginKit.Json

def surrogates (n : Nat) : List Char :=
  '\\' :: 'u' :: Text.hex 4 (0xd800 + (n - 0x10000) / 0x400) ++
    '\\' :: 'u' :: Text.hex 4 (0xdc00 + (n - 0x10000) % 0x400)

def printCode (n : Nat) : List Char :=
  let c := Char.ofNat n
  if c = '\x22' then ['\\', '\x22']
  else if c = '\\' then ['\\', '\\']
  else if c = '\n' then ['\\', 'n']
  else if c = '\r' then ['\\', 'r']
  else if c = '\t' then ['\\', 't']
  else if n = 8 then ['\\', 'b']
  else if n = 12 then ['\\', 'f']
  else if 0x20 ≤ n && n < 0x7f then [c]
  else if n < 0x10000 then '\\' :: 'u' :: Text.hex 4 n
  else surrogates n

def printText (s : String) : List Char := '\x22' :: (Text.codes s.toList).flatMap printCode ++ ['\x22']

def printInt (n : Int) : List Char :=
  if n < 0 then '-' :: Nat.toDigits 10 n.natAbs else Nat.toDigits 10 n.natAbs

def printFloat (x : Binary64) : List Char :=
  if x.isNaN then "NaN".toList
  else if x.isInfinite then (if x.negative then "-Infinity".toList else "Infinity".toList)
  else x.text.toList

def printFlag (b : Bool) : List Char := if b then "true".toList else "false".toList

def printKey : Key → List Char
  | .text s => printText s
  | .int n => '\x22' :: printInt n ++ ['\x22']
  | .float x => '\x22' :: printFloat x ++ ['\x22']
  | .flag b => '\x22' :: printFlag b ++ ['\x22']
  | .null => "\"null\"".toList
  | _ => "\"\"".toList

mutual

def print : Value → List Char
  | .null => "null".toList
  | .flag b => printFlag b
  | .int n => printInt n
  | .float x => printFloat x
  | .text s => printText s
  | .bytes _ | .date _ | .moment _ | .set _ => []
  | .pair a b => '[' :: print a ++ ',' :: ' ' :: print b ++ [']']
  | .list items => '[' :: printItems items ++ [']']
  | .object fields => '\x7b' :: printFields fields ++ ['\x7d']

def printItems : List Value → List Char
  | [] => []
  | [v] => print v
  | v :: w :: rest => print v ++ ',' :: ' ' :: printItems (w :: rest)

def printFields : List (Key × Value) → List Char
  | [] => []
  | [(k, v)] => printKey k ++ ':' :: ' ' :: print v
  | (k, v) :: field :: rest =>
    printKey k ++ ':' :: ' ' :: (print v ++ ',' :: ' ' :: printFields (field :: rest))

end

def text (v : Value) : String := String.ofList (print v)

/-! ## What cannot be written -/

inductive Unwritable where
  | value (kind : String)
  | key (kind : String)
  | number
  deriving DecidableEq

def Unwritable.message : Unwritable → String
  | .value kind => "Object of type " ++ kind ++ " is not JSON serializable"
  | .key kind => "keys must be str, int, float, bool or None, not " ++ kind
  | .number =>
    "Exceeds the limit (" ++ toString Whole.digitLimit ++
      " digits) for integer string conversion; use sys.set_int_max_str_digits() to increase the limit"

def unwritableInt? (n : Int) : Option Unwritable :=
  if Whole.exceeds (Nat.toDigits 10 n.natAbs) then some .number else none

def unwritableKey? : Key → Option Unwritable
  | .int n => unwritableInt? n
  | .date _ => some (.key "datetime.date")
  | .moment _ => some (.key "datetime.datetime")
  | .bytes _ => some (.key "bytes")
  | _ => none

mutual

def unwritable? : Value → Option Unwritable
  | .int n => unwritableInt? n
  | .bytes _ => some (.value "bytes")
  | .date _ => some (.value "date")
  | .moment _ => some (.value "datetime")
  | .set _ => some (.value "set")
  | .pair a b => unwritable? a <|> unwritable? b
  | .list items => unwritableItem? items
  | .object fields => unwritableField? fields
  | _ => none

def unwritableItem? : List Value → Option Unwritable
  | [] => none
  | v :: rest => unwritable? v <|> unwritableItem? rest

def unwritableField? : List (Key × Value) → Option Unwritable
  | [] => none
  | (k, v) :: rest => unwritableKey? k <|> unwritable? v <|> unwritableField? rest

end

def write (v : Value) : Except Unwritable String :=
  match unwritable? v with
  | some fault => .error fault
  | none => .ok (text v)

end PluginKit.Json
