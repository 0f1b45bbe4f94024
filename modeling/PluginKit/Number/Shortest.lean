import PluginKit.Number.Binary64

/-!
The fewest decimal digits that read back as a given number, and the text made of them. For one, two,
... digits the number's two neighbours on that decimal grid are tested, in exact arithmetic, against
the interval of values that round to the number. A number can also be written with as many digits as are asked for.
-/

namespace PluginKit

structure Decimal where
  digits : Nat
  exponent : Int
  deriving DecidableEq

namespace Binary64

def tenfold (p q : Nat) (k : Int) : Nat × Nat :=
  if 0 ≤ k then (p, q * Nat.pow 10 k.toNat) else (p * Nat.pow 10 (-k).toNat, q)

def decade (p q : Nat) : Int :=
  if q ≤ p then (Nat.toDigits 10 (p / q)).length - 1
  else -((((List.range 400).map (· + 1)).find? fun j => q ≤ p * Nat.pow 10 j).getD 400 : Nat)

structure Interval where
  low : Nat
  high : Nat
  closed : Bool

/-- The interval around a size: half a place on both sides, but only a quarter below a power of
two, where the places beneath are half as wide; its ends count when the significand is even. -/
def interval (x : Binary64) : Interval :=
  let m := x.significand
  let below := if m = Nat.pow 2 52 && 1 < x.exponentField then 1 else 2
  ⟨4 * m - below, 4 * m + 2, m % 2 = 0⟩

def Interval.contains (i : Interval) (e : Int) (digits : Nat) (k : Int) : Bool :=
  let ten := if 0 ≤ k then (digits * Nat.pow 10 k.toNat, 1) else (digits, Nat.pow 10 (-k).toNat)
  let unit := if 0 ≤ e then (Nat.pow 2 e.toNat, 1) else (1, Nat.pow 2 (-e).toNat)
  let value := ten.1 * unit.2
  let low := i.low * unit.1 * ten.2
  let high := i.high * unit.1 * ten.2
  if i.closed then low ≤ value && value ≤ high else low < value && value < high

def decimalWith? (x : Binary64) (n : Nat) : Option Decimal :=
  let size := scaled x.significand 1 (-x.scale)
  let k := decade size.1 size.2 - (n - 1 : Nat)
  let ratio := tenfold size.1 size.2 k
  let down := ratio.1 / ratio.2
  let rest := ratio.1 % ratio.2
  let holds := fun digits => x.interval.contains (x.scale - 2) digits k
  let upFirst := ratio.2 < 2 * rest || (2 * rest = ratio.2 && down % 2 = 1)
  let near := if upFirst then down + 1 else down
  let far := if upFirst then down else down + 1
  if holds near then some ⟨near, k⟩ else if holds far then some ⟨far, k⟩ else none

/-- The shortest decimal that reads back as a finite number other than zero. Seventeen digits always
suffice. -/
def shortest (x : Binary64) : Decimal :=
  (((List.range 17).map (· + 1)).findSome? fun n => x.decimalWith? n).getD ⟨0, 0⟩

structure Layout where
  least : Int
  limit : Int

def plainLayout : Layout := ⟨-4, 16⟩

def significant (digits : List Char) : List Char := (digits.reverse.dropWhile (· == '0')).reverse

def exponentText (e : Int) : List Char :=
  let digits := Nat.toDigits 10 e.natAbs
  'e' :: (if e < 0 then '-' else '+') :: (if digits.length < 2 then '0' :: digits else digits)

def Layout.write (layout : Layout) (d : Decimal) : List Char :=
  let all := Nat.toDigits 10 d.digits
  let digits := significant all
  let point := (all.length : Int) + d.exponent
  let exponent := point - 1
  if layout.least ≤ exponent && exponent < layout.limit then
    if point ≤ 0 then
      '0' :: '.' :: List.replicate (-point).toNat '0' ++ digits
    else if (digits.length : Int) ≤ point then
      digits ++ List.replicate (point - digits.length).toNat '0' ++ ['.', '0']
    else
      digits.take point.toNat ++ '.' :: digits.drop point.toNat
  else match digits with
    | [] => []
    | [c] => c :: exponentText exponent
    | c :: rest => c :: '.' :: rest ++ exponentText exponent

def text (x : Binary64) : String :=
  if x.isNaN then "nan"
  else
    let size :=
      if x.isInfinite then ['i', 'n', 'f']
      else if x.isZero then ['0', '.', '0']
      else plainLayout.write x.shortest
    String.ofList (if x.negative then '-' :: size else size)

/-! ## A given number of digits -/

def multipleOf (x : Binary64) (k : Int) : Nat :=
  let size := scaled x.significand 1 (-x.scale)
  let ratio := tenfold size.1 size.2 k
  roundedQuotient ratio.1 ratio.2

def withPoint (pointed : Bool) (whole fraction : List Char) : List Char :=
  if fraction.isEmpty && !pointed then whole else whole ++ '.' :: fraction

def fixedText (x : Binary64) (places : Nat) (pointed : Bool) : List Char :=
  let digits := Nat.toDigits 10 (x.multipleOf (-places))
  let digits := List.replicate (places + 1 - digits.length) '0' ++ digits
  withPoint pointed (digits.take (digits.length - places)) (digits.drop (digits.length - places))

def leading (x : Binary64) (count : Nat) : List Char × Int :=
  if x.isZero then (List.replicate count '0', 0)
  else
    let size := scaled x.significand 1 (-x.scale)
    let e := decade size.1 size.2
    let n := x.multipleOf (e - (count - 1 : Nat))
    -- All nines may have been rounded up.
    if n = Nat.pow 10 count then (Nat.toDigits 10 (n / 10), e + 1) else (Nat.toDigits 10 n, e)

def scientificText (x : Binary64) (places : Nat) (pointed : Bool) : List Char :=
  let (digits, e) := x.leading (places + 1)
  withPoint pointed (digits.take 1) (digits.drop 1) ++ exponentText e

-- Zeros at the end are dropped, unless the point is to be kept.
def generalText (x : Binary64) (count : Nat) (pointed : Bool) : List Char :=
  let (digits, e) := x.leading count
  let kept := if pointed then digits else digits.take 1 ++ significant (digits.drop 1)
  if e < -4 || (count : Int) ≤ e then withPoint pointed (kept.take 1) (kept.drop 1) ++ exponentText e
  else if e < 0 then withPoint pointed ['0'] (List.replicate (-e - 1).toNat '0' ++ kept)
  else withPoint pointed (digits.take (e.toNat + 1)) (kept.drop (e.toNat + 1))

end PluginKit.Binary64
