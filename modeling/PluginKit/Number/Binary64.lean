/-!
Double precision numbers, by their bits. All arithmetic on them is exact arithmetic on integers, so
every step can be reasoned about: a number is decoded to `significand * 2 ^ scale`, and a ratio of
integers is rounded to the nearest number, a half to the even neighbour.
-/

namespace PluginKit

structure Binary64 where
  bits : UInt64
  deriving DecidableEq

namespace Binary64

def negative (x : Binary64) : Bool := x.bits >>> 63 == 1

def exponentField (x : Binary64) : Nat := ((x.bits >>> 52) &&& 0x7ff).toNat

def fractionField (x : Binary64) : Nat := (x.bits &&& 0xfffffffffffff).toNat

def isNaN (x : Binary64) : Bool := x.exponentField == 0x7ff && x.fractionField != 0

def isInfinite (x : Binary64) : Bool := x.exponentField == 0x7ff && x.fractionField == 0

def isFinite (x : Binary64) : Bool := x.exponentField != 0x7ff

/-- A finite number has the size `significand * 2 ^ scale`. -/
def significand (x : Binary64) : Nat :=
  if x.exponentField = 0 then x.fractionField else Nat.pow 2 52 + x.fractionField

def scale (x : Binary64) : Int := (max x.exponentField 1 : Nat) - 1075

def isZero (x : Binary64) : Bool := x.isFinite && x.significand == 0

def infinityBits : Nat := 0x7ff * Nat.pow 2 52

def ofSize (negative : Bool) (size : Nat) : Binary64 :=
  ⟨UInt64.ofNat (if negative then Nat.pow 2 63 + size else size)⟩

def infinity (negative : Bool) : Binary64 := ofSize negative infinityBits

def notANumber : Binary64 := ⟨0x7ff8000000000000⟩

def roundedQuotient (a b : Nat) : Nat :=
  let q := a / b
  let r := a % b
  if b < 2 * r || (2 * r = b && q % 2 = 1) then q + 1 else q

def scaled (p q : Nat) (e : Int) : Nat × Nat :=
  if 0 ≤ e then (p, q * Nat.pow 2 e.toNat) else (p * Nat.pow 2 (-e).toNat, q)

/-- The bits of the number nearest to `p / q`. The exponent is chosen so that the significand has
53 binary places, or fewer at the bottom of the range; a carry out of the significand runs into the
exponent field, where it belongs, and a size beyond the largest one is infinite. -/
def sizeOfRatio (p q : Nat) : Nat :=
  if p = 0 then 0
  else
    let guess : Int := (Nat.log2 p : Int) - Nat.log2 q
    let exact := scaled p q guess
    let top := if exact.2 ≤ exact.1 then guess else guess - 1
    let e := max (top - 52) (-1074)
    let ratio := scaled p q e
    let m := roundedQuotient ratio.1 ratio.2
    let bits := if m < Nat.pow 2 52 then m else (e + 1075).toNat * Nat.pow 2 52 + (m - Nat.pow 2 52)
    min bits infinityBits

/-- The number nearest to `digits * 10 ^ exponent`. Exponents far outside the range are settled
without computing their power of ten. -/
def ofDecimal (negative : Bool) (digits : Nat) (exponent : Int) : Binary64 :=
  if digits = 0 then ofSize negative 0
  else if 400 < exponent then infinity negative
  else if exponent + (Nat.toDigits 10 digits).length < -400 then ofSize negative 0
  else if 0 ≤ exponent then ofSize negative (sizeOfRatio (digits * Nat.pow 10 exponent.toNat) 1)
  else ofSize negative (sizeOfRatio digits (Nat.pow 10 (-exponent).toNat))

def ofInt (n : Int) : Binary64 := ofSize (n < 0) (sizeOfRatio n.natAbs 1)

def truncate (x : Binary64) : Int :=
  let size : Nat :=
    if 0 ≤ x.scale then x.significand * Nat.pow 2 x.scale.toNat
    else x.significand / Nat.pow 2 (-x.scale).toNat
  if x.negative then -size else size

def toInt? (x : Binary64) : Option Int :=
  if !x.isFinite then none
  else if 0 ≤ x.scale || x.significand % Nat.pow 2 (-x.scale).toNat = 0 then some x.truncate
  else none

def same (x y : Binary64) : Bool :=
  !x.isNaN && !y.isNaN && (x.bits == y.bits || (x.isZero && y.isZero))

def atMostZero (x : Binary64) : Bool :=
  !x.isNaN && (x.negative || x.isZero)

/-! ## Sums and products

They are computed exactly, as an integer times a power of two, and rounded once. -/

def negate (x : Binary64) : Binary64 := ⟨x.bits ^^^ 0x8000000000000000⟩

def ofScaled (negative : Bool) (size : Nat) (scale : Int) : Binary64 :=
  let ratio := scaled size 1 (-scale)
  ofSize negative (sizeOfRatio ratio.1 ratio.2)

def signed (x : Binary64) : Int := if x.negative then -x.significand else x.significand

def mul (x y : Binary64) : Binary64 :=
  let negative := x.negative != y.negative
  if x.isNaN || y.isNaN then notANumber
  else if x.isInfinite || y.isInfinite then
    if x.isZero || y.isZero then notANumber else infinity negative
  else ofScaled negative (x.significand * y.significand) (x.scale + y.scale)

def add (x y : Binary64) : Binary64 :=
  if x.isNaN || y.isNaN then notANumber
  else if x.isInfinite then
    if y.isInfinite && x.negative != y.negative then notANumber else x
  else if y.isInfinite then y
  else
    let low := min x.scale y.scale
    let raised := fun (z : Binary64) => z.signed * Nat.pow 2 (z.scale - low).toNat
    let total := raised x + raised y
    if total = 0 then ofSize (x.negative && y.negative) 0
    else ofScaled (total < 0) total.natAbs low

def below (x y : Binary64) : Bool :=
  !x.isNaN && !y.isNaN && !x.same y && (x.add y.negate).negative

def ceiling (x : Binary64) : Int :=
  if x.negative || x.toInt?.isSome then x.truncate else x.truncate + 1

end PluginKit.Binary64
