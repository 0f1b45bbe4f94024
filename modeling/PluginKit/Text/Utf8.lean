import PluginKit.Text.Digit
import PluginKit.Text.Surrogate

/-!
UTF-8: encoding, decoding, and what is wrong with bytes that no text encodes to. A refusal names the
first bad run of bytes and why it is bad.
-/

namespace PluginKit.Utf8

inductive Reason where
  | invalidStart
  | invalidContinuation
  | unexpectedEnd
  deriving DecidableEq

def Reason.text : Reason → String
  | .invalidStart => "invalid start byte"
  | .invalidContinuation => "invalid continuation byte"
  | .unexpectedEnd => "unexpected end of data"

structure Fault where
  position : Nat
  length : Nat
  byte : UInt8
  reason : Reason
  deriving DecidableEq

def Fault.message (fault : Fault) : String :=
  let place :=
    if fault.length ≤ 1 then
      "byte 0x" ++ String.ofList (Text.hex 2 fault.byte.toNat) ++ " in position " ++
        toString fault.position
    else
      "bytes in position " ++ toString fault.position ++ "-" ++
        toString (fault.position + fault.length - 1)
  "'utf-8' codec can't decode " ++ place ++ ": " ++ fault.reason.text

def encode (s : String) : List UInt8 :=
  let chars := fun (n : Nat) => if Text.isSurrogate n then none else some (Char.ofNat n)
  let plain :=
    if s.contains Text.standInMark then String.ofList ((Text.codes s.toList).filterMap chars) else s
  plain.toUTF8.data.toList

structure EncodeFault where
  value : Nat
  position : Nat
  length : Nat
  deriving DecidableEq

def EncodeFault.message (fault : EncodeFault) : String :=
  let place :=
    if fault.length ≤ 1 then
      "character '\\u" ++ String.ofList (Text.hex 4 fault.value) ++ "' in position " ++
        toString fault.position
    else
      "characters in position " ++ toString fault.position ++ "-" ++
        toString (fault.position + fault.length - 1)
  "'utf-8' codec can't encode " ++ place ++ ": surrogates not allowed"

def encodeFault? (s : String) : Option EncodeFault :=
  if !s.contains Text.standInMark then none
  else
    let (before, found) := (Text.codes s.toList).span fun n => !Text.isSurrogate n
    match found with
    | [] => none
    | n :: rest => some ⟨n, before.length, 1 + (rest.takeWhile Text.isSurrogate).length⟩

def encodeStrict (s : String) : Except EncodeFault (List UInt8) :=
  match encodeFault? s with
  | some fault => .error fault
  | none => .ok (encode s)

structure Lead where
  low : UInt8
  high : UInt8
  following : Nat

/-- What a first byte asks for. Overlong forms, surrogates and code points beyond the last one are
shut out by narrowing the range of the second byte. -/
def lead? (b : UInt8) : Option Lead :=
  if b < 0x80 then some ⟨0x80, 0xbf, 0⟩
  else if b < 0xc2 then none
  else if b < 0xe0 then some ⟨0x80, 0xbf, 1⟩
  else if b = 0xe0 then some ⟨0xa0, 0xbf, 2⟩
  else if b = 0xed then some ⟨0x80, 0x9f, 2⟩
  else if b < 0xf0 then some ⟨0x80, 0xbf, 2⟩
  else if b = 0xf0 then some ⟨0x90, 0xbf, 3⟩
  else if b < 0xf4 then some ⟨0x80, 0xbf, 3⟩
  else if b = 0xf4 then some ⟨0x80, 0x8f, 3⟩
  else none

def tailFault? (low high : UInt8) : Nat → Nat → List UInt8 → Option (Nat × Reason)
  | 0, _, _ => none
  | _ + 1, seen, [] => some (seen, .unexpectedEnd)
  | missing + 1, seen, b :: rest =>
    if low ≤ b && b ≤ high then tailFault? 0x80 0xbf missing (seen + 1) rest
    else some (seen, .invalidContinuation)

def faultFrom? (position : Nat) (skip : Nat) : List UInt8 → Option Fault
  | [] => none
  | b :: rest =>
    match skip with
    | k + 1 => faultFrom? (position + 1) k rest
    | 0 =>
      match lead? b with
      | none => some ⟨position, 1, b, .invalidStart⟩
      | some lead =>
        match tailFault? lead.low lead.high lead.following 1 rest with
        | some (length, reason) => some ⟨position, length, b, reason⟩
        | none => faultFrom? (position + 1) lead.following rest

def decode (bytes : List UInt8) : Except Fault String :=
  match String.fromUTF8? ⟨bytes.toArray⟩ with
  | some s => .ok (Text.held s)
  | none => .error ((faultFrom? 0 0 bytes).getD ⟨0, 0, 0, .invalidStart⟩)

/-! ## Repairs -/

/-- Bytes in which every run that encodes nothing is replaced by the replacement character; `kept` bytes
belong to a character seen before, and `dropped` ones to a bad run. -/
def repaired (kept dropped : Nat) : List UInt8 → List UInt8
  | [] => []
  | b :: rest =>
    match kept, dropped with
    | k + 1, _ => b :: repaired k 0 rest
    | 0, d + 1 => repaired 0 d rest
    | 0, 0 =>
      match lead? b with
      | none => 0xef :: 0xbf :: 0xbd :: repaired 0 0 rest
      | some lead =>
        match tailFault? lead.low lead.high lead.following 1 rest with
        | some (length, _) => 0xef :: 0xbf :: 0xbd :: repaired 0 (length - 1) rest
        | none => b :: repaired lead.following 0 rest

end PluginKit.Utf8
