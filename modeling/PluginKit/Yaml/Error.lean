import PluginKit.Number.Whole
import PluginKit.Text.Utf8
import PluginKit.Value.Timestamp

/-!
Why a configuration file has no value. Most files that fail break the rules of the format; others are no
text, are nested too deeply, or hold a number, a flag or a time that cannot be read.
-/

namespace PluginKit.Yaml

inductive Error where
  | malformed
  | tooDeep (indented : Bool)
  | undecodable (fault : Utf8.Fault)
  | codePoint (n : Nat)
  | emptyNumber
  | whole (fault : Whole.Fault)
  | decimal (text : String)
  | weight
  | flag (word : String)
  | calendar (fault : CalendarFault)
  | notTimestamp
  | nestedTimestamp
  deriving DecidableEq

def largestCode : Nat := 0x7fffffff

def Error.message : Error → String
  | .malformed => "malformed configuration file"
  | .tooDeep indented =>
    "maximum recursion depth exceeded" ++ if indented then "" else " while calling a Python object"
  | .undecodable fault => fault.message
  | .codePoint n =>
    if largestCode < n then "Python int too large to convert to C int"
    else "chr() arg not in range(0x110000)"
  | .emptyNumber => "string index out of range"
  | .whole fault => fault.message
  | .decimal text => "could not convert string to float: " ++ Text.quoted text
  | .weight => "int too large to convert to float"
  | .flag word => Text.quoted word
  | .calendar fault => fault.message
  | .notTimestamp => "'NoneType' object has no attribute 'groupdict'"
  | .nestedTimestamp => "expected string or bytes-like object, got 'list'"

abbrev Reading := Except Error

def malformed {α : Type} : Reading α := .error .malformed

def orMalformed {α : Type} : Option α → Reading α
  | some a => .ok a
  | none => malformed

end PluginKit.Yaml
