import PluginKit.Number.Whole
import PluginKit.Value.Basic

/-!
Release versions, as tags name them: three numbers with points between, possibly after a `v`.
-/

namespace PluginKit

structure Version where
  major : Nat
  minor : Nat
  patch : Nat
  deriving DecidableEq

namespace Version

def ble (a b : Version) : Bool :=
  a.major < b.major || (a.major == b.major &&
    (a.minor < b.minor || (a.minor == b.minor && a.patch ≤ b.patch)))

def readDigits? (s : List Char) : Option (List Char × List Char) :=
  let digits := s.takeWhile Text.isDigit
  if digits.isEmpty then none else some (digits, s.dropWhile Text.isDigit)

def readPoint? : List Char → Option (List Char)
  | '.' :: rest => some rest
  | _ => none

def withoutV : List Char → List Char
  | 'v' :: rest => rest
  | s => s

/-- The digits of the version that a tag names. Digits of every script count, and so does a tag that
ends in a line feed. -/
def digits? (s : List Char) : Option (List Char × List Char × List Char) := do
  let (major, afterMajor) ← readDigits? (withoutV s)
  let (minor, afterMinor) ← readDigits? (← readPoint? afterMajor)
  let (patch, rest) ← readDigits? (← readPoint? afterMinor)
  if rest = [] || rest = ['\n'] then some (major, minor, patch) else none

def ofTag (name : String) : Except Whole.Fault (Option Version) :=
  match digits? name.toList with
  | none => .ok none
  | some (major, minor, patch) =>
    match [major, minor, patch].find? Whole.exceeds with
    | some digits => .error (.tooLong digits.length)
    | none =>
      .ok (some ⟨Text.decimalValue major, Text.decimalValue minor, Text.decimalValue patch⟩)

inductive TagFault where
  | notText (kind : String)
  | number (fault : Whole.Fault)

def TagFault.message : TagFault → String
  | .notText kind => "expected string or bytes-like object, got '" ++ kind ++ "'"
  | .number fault => fault.message

def ofValue : Value → Except TagFault (Option Version)
  | .text name => (ofTag name).mapError .number
  | v => .error (.notText v.kind)

end Version

end PluginKit
