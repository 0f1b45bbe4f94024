import PluginKit.Number.Binary64
import PluginKit.Number.Whole

/-!
Double precision numbers as texts: a sign, digits before or after a point, an exponent, or a word for
infinity or for no number.
-/

namespace PluginKit.Binary64

def lowerAscii (s : List Char) : List Char :=
  s.map fun c => if 'A' ≤ c && c ≤ 'Z' then Char.ofNat (c.toNat + 32) else c

def spanDecimal (s : List Char) : List Char × List Char :=
  (s.takeWhile Text.isAsciiDigit, s.dropWhile Text.isAsciiDigit)

def exponentOf? : List Char → Option Int
  | [] => some 0
  | c :: rest =>
    if c = 'e' || c = 'E' then
      let (negative, unsigned) := Whole.spanSign rest
      if unsigned.isEmpty || !unsigned.all Text.isAsciiDigit then none
      else
        let size : Int := Text.decimalValue unsigned
        some (if negative then -size else size)
    else none

def ofAscii? (s : List Char) : Option Binary64 :=
  let (negative, unsigned) := Whole.spanSign s
  let word := String.ofList (lowerAscii unsigned)
  if word = "inf" || word = "infinity" then some (infinity negative)
  else if word = "nan" then some notANumber
  else
    let (whole, afterWhole) := spanDecimal unsigned
    let (fraction, rest) := match afterWhole with
      | '.' :: more => spanDecimal more
      | more => ([], more)
    if whole.isEmpty && fraction.isEmpty then none
    else (exponentOf? rest).map fun exponent =>
      ofDecimal negative (Text.decimalValue (whole ++ fraction)) (exponent - fraction.length)

def spacesDigits : List Char → Bool
  | [] => true
  | ['_'] => false
  | '_' :: _ => false
  | [_] => true
  | c :: '_' :: d :: rest => Text.isAsciiDigit c && Text.isAsciiDigit d && spacesDigits (d :: rest)
  | _ :: c :: rest => spacesDigits (c :: rest)

def plainDigit (c : Char) : Char :=
  match Text.digitValue? c with
  | some n => Char.ofNat (48 + n)
  | none => c

def ofText? (text : String) : Option Binary64 :=
  let inner := ((text.toList.dropWhile Whole.isAround).reverse.dropWhile Whole.isAround).reverse
  let plain := inner.map plainDigit
  if spacesDigits plain then ofAscii? (plain.filter (· ≠ '_')) else none

end PluginKit.Binary64
