import PluginKit.Text.Surrogate
import PluginKit.Text.Utf8

/-!
Decoding the bytes of a JSON body. The encoding (UTF-8, UTF-16 or UTF-32) shows in the byte order
mark or, since a JSON text starts with ASCII, in where the first zero bytes are. Surrogates that stand
alone are let through.
-/

namespace PluginKit.Text

inductive Encoding where
  | utf8
  | utf16 (bigEndian : Bool)
  | utf32 (bigEndian : Bool)
  deriving DecidableEq

def detectEncoding : List UInt8 → Encoding × Nat
  | 0x00 :: 0x00 :: 0xfe :: 0xff :: _ => (.utf32 true, 4)
  | 0xff :: 0xfe :: 0x00 :: 0x00 :: _ => (.utf32 false, 4)
  | 0xfe :: 0xff :: _ => (.utf16 true, 2)
  | 0xff :: 0xfe :: _ => (.utf16 false, 2)
  | 0xef :: 0xbb :: 0xbf :: _ => (.utf8, 3)
  | a :: b :: c :: d :: _ =>
    if a = 0 then (if b = 0 then .utf32 true else .utf16 true, 0)
    else if b = 0 then (if c = 0 && d = 0 then .utf32 false else .utf16 false, 0)
    else (.utf8, 0)
  | [a, b] =>
    if a = 0 then (.utf16 true, 0) else if b = 0 then (.utf16 false, 0) else (.utf8, 0)
  | _ => (.utf8, 0)

def joinBytes (bigEndian : Bool) (bytes : List UInt8) : Nat :=
  (if bigEndian then bytes else bytes.reverse).foldl (fun n b => 256 * n + b.toNat) 0

def units16? (bigEndian : Bool) : List UInt8 → Option (List Nat)
  | [] => some []
  | a :: b :: rest => (units16? bigEndian rest).map (joinBytes bigEndian [a, b] :: ·)
  | _ => none

def units32? (bigEndian : Bool) : List UInt8 → Option (List Nat)
  | [] => some []
  | a :: b :: c :: d :: rest =>
    (units32? bigEndian rest).map (joinBytes bigEndian [a, b, c, d] :: ·)
  | _ => none

def charsOfUnits : List Nat → List Char
  | [] => []
  | [n] => charsOfCode n
  | high :: low :: rest =>
    if 0xd800 ≤ high && high < 0xdc00 && 0xdc00 ≤ low && low < 0xe000 then
      charsOfCode (pairCode high low) ++ charsOfUnits rest
    else charsOfCode high ++ charsOfUnits (low :: rest)

def withStandIns : List UInt8 → List UInt8
  | 0xed :: b :: c :: rest =>
    if 0xa0 ≤ b && b ≤ 0xbf && 0x80 ≤ c && c ≤ 0xbf then
      0xf4 :: 0x8d :: b :: c :: withStandIns rest
    else 0xed :: withStandIns (b :: c :: rest)
  | b :: rest => b :: withStandIns rest
  | [] => []

def decodeBody (bytes : List UInt8) : Option String :=
  let (encoding, mark) := detectEncoding bytes
  let data := bytes.drop mark
  match encoding with
  | .utf8 => (Utf8.decode (withStandIns data)).toOption
  | .utf16 bigEndian =>
    (units16? bigEndian data).map fun units => String.ofList (charsOfUnits units)
  | .utf32 bigEndian => do
    let units ← units32? bigEndian data
    if units.all (· < 0x110000) then some (String.ofList (units.flatMap charsOfCode)) else none

end PluginKit.Text
