import PluginKit.Text.Utf8

/-!
Encodings of text files, by their names. UTF-8 may start with a mark that is not part of the text; the other
two have one byte for each character.
-/

namespace PluginKit.Text

inductive Codec where
  | utf8
  | utf8Marked
  | latin
  | ascii
  deriving DecidableEq

namespace Codec

inductive Fault where
  | utf8 (fault : Utf8.Fault)
  | notAscii (position : Nat) (byte : UInt8)
  deriving DecidableEq

def Fault.message : Fault → String
  | .utf8 fault => fault.message
  | .notAscii position byte =>
    "'ascii' codec can't decode byte 0x" ++ String.ofList (hex 2 byte.toNat) ++ " in position "
      ++ toString position ++ ": ordinal not in range(128)"

/-! ## Names -/

def utf8Names : List String := ["utf_8", "utf8", "u8", "utf", "cp65001", "utf8_ucs2", "utf8_ucs4"]

def latinNames : List String :=
  ["latin_1", "latin1", "latin", "l1", "8859", "cp819", "csisolatin1", "ibm819", "iso8859", "iso8859_1",
    "iso_8859_1", "iso_8859_1_1987", "iso_ir_100"]

def asciiNames : List String :=
  ["ascii", "us_ascii", "us", "646", "ansi_x3.4_1968", "ansi_x3.4_1986", "ansi_x3_4_1968", "cp367", "csascii",
    "ibm367", "iso646_us", "iso_646.irv_1991", "iso_ir_6"]

def plainName (name : String) : String :=
  let isWord := fun (c : Char) => c.isAlphanum || c = '.'
  let step := fun (found : List Char × Bool) (c : Char) =>
    if isWord c then
      ((if found.2 && !found.1.isEmpty then [c.toLower, '_'] else [c.toLower]) ++ found.1, false)
    else (found.1, true)
  String.ofList (name.toList.foldl step ([], false)).1.reverse

def ofName? (name : String) : Option Codec :=
  let plain := plainName name
  if utf8Names.contains plain then some .utf8
  else if plain = "utf_8_sig" then some .utf8Marked
  else if latinNames.contains plain then some .latin
  else if asciiNames.contains plain then some .ascii
  else none

/-! ## Decoding -/

def charOfByte (b : UInt8) : Char := Char.ofNat b.toNat

def withoutMark : List UInt8 → List UInt8
  | 0xef :: 0xbb :: 0xbf :: rest => rest
  | data => data

def decode (codec : Codec) (data : List UInt8) : Except Fault String :=
  match codec with
  | .utf8 => (Utf8.decode data).mapError .utf8
  | .utf8Marked => (Utf8.decode (withoutMark data)).mapError .utf8
  | .latin => .ok (String.ofList (data.map charOfByte))
  | .ascii =>
    match data.span (· < 128) with
    | (plain, []) => .ok (String.ofList (plain.map charOfByte))
    | (plain, byte :: _) => .error (.notAscii plain.length byte)

end Codec

end PluginKit.Text
