import PluginKit.Text.Digit
import PluginKit.Text.Lines
import PluginKit.Text.Printable

/-!
Integers as texts, in a base. Blanks may surround the number, a sign and the mark of the base may stand
before it, and single underscores may separate its digits. Digits of every script count. A base that is
no power of two limits the number of digits, because reading them takes quadratic time.
-/

namespace PluginKit.Whole

def digitLimit : Nat := 4300

inductive Fault where
  | malformed (base : Nat) (text : String)
  | tooLong (digits : Nat)
  deriving DecidableEq

def Fault.message : Fault → String
  | .malformed base text =>
    "invalid literal for int() with base " ++ toString base ++ ": " ++
      String.ofList ((Text.quoted text).toList.take 200)
  | .tooLong digits =>
    "Exceeds the limit (" ++ toString digitLimit ++
      " digits) for integer string conversion: value has " ++ toString digits ++
      " digits; use sys.set_int_max_str_digits() to increase the limit"

def digitOf? (c : Char) : Option Nat :=
  if 'a' ≤ c && c ≤ 'z' then some (c.toNat - 87)
  else if 'A' ≤ c && c ≤ 'Z' then some (c.toNat - 55)
  else Text.digitValue? c

def isAround (c : Char) : Bool :=
  c = ' ' || (9 ≤ c.toNat && c.toNat ≤ 13) || (127 < c.toNat && Text.isBlank c)

def spanSign : List Char → Bool × List Char
  | '-' :: rest => (true, rest)
  | '+' :: rest => (false, rest)
  | s => (false, s)

def markOf? : Nat → Option Char
  | 2 => some 'b'
  | 8 => some 'o'
  | 16 => some 'x'
  | _ => none

def withoutMark (base : Nat) (s : List Char) : List Char :=
  match s, markOf? base with
  | '0' :: c :: rest, some mark =>
    if c = mark || c = mark.toUpper then
      match rest with
      | '_' :: more => more
      | more => more
    else s
  | _, _ => s

def spanDigits (base : Nat) (s : List Char) : List Char × List Char :=
  let inside := fun (c : Char) => c = '_' || (digitOf? c).any (· < base)
  (s.takeWhile inside, s.dropWhile inside)

def spacesWell : List Char → Bool
  | [] => true
  | ['_'] => false
  | '_' :: _ => false
  | [_] => true
  | _ :: '_' :: rest => !rest.isEmpty && spacesWell rest
  | _ :: c :: rest => spacesWell (c :: rest)

def isPowerOfTwo (base : Nat) : Bool := base &&& (base - 1) = 0

def parse (base : Nat) (text : String) : Except Fault Int :=
  let (negative, unsigned) := spanSign (text.toList.dropWhile isAround)
  let (run, rest) := spanDigits base (withoutMark base unsigned)
  let digits := run.filter (· ≠ '_')
  if !spacesWell run then .error (.malformed base text)
  else if !isPowerOfTwo base && digitLimit < digits.length then .error (.tooLong digits.length)
  else if digits.isEmpty || !rest.all isAround then .error (.malformed base text)
  else
    let size : Int := digits.foldl (fun n d => base * n + (digitOf? d).getD 0) 0
    .ok (if negative then -size else size)

def exceeds (digits : List Char) : Bool := digitLimit < digits.length

end PluginKit.Whole
