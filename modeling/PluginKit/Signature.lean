/-!
Calls with named arguments: what a function takes, and what is wrong with arguments that do not fit.
-/

namespace PluginKit

/-- The parameters of a function: those that have their values already, those that must be given and
those that may be left out. -/
structure Signature where
  name : String
  bound : List String
  required : List String
  optional : List String

namespace Signature

inductive Fault where
  | unexpected (function argument : String)
  | repeated (function argument : String)
  | missing (function : String) (arguments : List String)
  deriving DecidableEq

def listed (names : List String) : String :=
  match names.map fun name => "'" ++ name ++ "'" with
  | [] => ""
  | [a] => a
  | [a, b] => a ++ " and " ++ b
  | all => ", ".intercalate all.dropLast ++ ", and " ++ all.getLast?.getD ""

def Fault.message : Fault → String
  | .unexpected function argument =>
    function ++ "() got an unexpected keyword argument '" ++ argument ++ "'"
  | .repeated function argument =>
    function ++ "() got multiple values for argument '" ++ argument ++ "'"
  | .missing function arguments =>
    function ++ "() missing " ++ toString arguments.length ++ " required positional argument" ++
      (if arguments.length = 1 then "" else "s") ++ ": " ++ listed arguments

def fault? (s : Signature) (arguments : List String) : Option Fault :=
  match arguments.find? fun a => !(s.required ++ s.optional).contains a with
  | some a => some (if s.bound.contains a then .repeated s.name a else .unexpected s.name a)
  | none =>
    match s.required.filter fun a => !arguments.contains a with
    | [] => none
    | missing => some (.missing s.name missing)

end Signature

end PluginKit
