import PluginKit.Text.Digit
import PluginKit.Text.Utf8

/-!
Escapes in addresses: a character that may not stand in some part of an address is written as the bytes
that encode it, each as a percent sign and two digits.
-/

namespace PluginKit.Net

def isAlphanumeric (c : Char) : Bool :=
  ('a' ≤ c && c ≤ 'z') || ('A' ≤ c && c ≤ 'Z') || ('0' ≤ c && c ≤ '9')

def isUnreserved (c : Char) : Bool := isAlphanumeric c || "-._~".toList.contains c

def isVisible (c : Char) : Bool := 0x21 ≤ c.toNat && c.toNat ≤ 0x7e

/-! ## What may stand where -/

def isFragmentChar (c : Char) : Bool := isVisible c && !"\x22<>`".toList.contains c

def isQueryChar (c : Char) : Bool := isVisible c && !"\x22#<>".toList.contains c

def isPathChar (c : Char) : Bool := isQueryChar c && !"?`\x7b\x7d".toList.contains c

def isUserChar (c : Char) : Bool := isPathChar c && !"/;=@[\\]^|".toList.contains c

def isHostChar (c : Char) : Bool :=
  isUnreserved c || "!$&\x27()*+,;=\x22`\x7b\x7d%|\\".toList.contains c

/-! ## Writing -/

def escapeAll (s : List Char) : List Char :=
  (Utf8.encode (String.ofList s)).flatMap fun b => '%' :: (Text.hex 2 b.toNat).map Char.toUpper

def escape (keep : Char → Bool) (s : List Char) : List Char :=
  (Text.pieces s).flatMap fun piece => if piece.all keep then piece else escapeAll piece

def formText (s : List Char) : List Char :=
  (Text.pieces s).flatMap fun piece =>
    if piece = [' '] then ['+'] else if piece.all isUnreserved then piece else escapeAll piece

def formQuery (params : List (String × String)) : List Char :=
  List.intercalate ['&'] (params.map fun (name, value) =>
    formText name.toList ++ '=' :: formText value.toList)

/-! ## Reading -/

def escapedBytes : List Char → List UInt8
  | [] => []
  | '%' :: a :: b :: rest =>
    match Text.hexValue? a, Text.hexValue? b with
    | some high, some low => UInt8.ofNat (16 * high + low) :: escapedBytes rest
    | _, _ => '%'.toNat.toUInt8 :: escapedBytes (a :: b :: rest)
  | c :: rest => c.toNat.toUInt8 :: escapedBytes rest

def unescape (s : List Char) : List UInt8 := Utf8.repaired 0 0 (escapedBytes s)

end PluginKit.Net
