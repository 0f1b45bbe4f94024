import PluginKit.Number.Binary64
import PluginKit.Number.Reading
import PluginKit.Text.Base64
import PluginKit.Text.Lower
import PluginKit.Value.Basic
import PluginKit.Yaml.Error

/-!
What a word of a configuration file means. A plain word has the tag that its looks suggest, and a word that
looks like nothing else is a text; the tag then says how the word is read.
-/

namespace PluginKit.Yaml

inductive Tag where
  | null
  | flag
  | int
  | float
  | binary
  | timestamp
  | text
  | sequence
  | mapping
  | set
  | pairs
  | merge
  | value
  | other (name : String)
  deriving DecidableEq

def Tag.ofName : String → Tag
  | "tag:yaml.org,2002:null" => .null
  | "tag:yaml.org,2002:bool" => .flag
  | "tag:yaml.org,2002:int" => .int
  | "tag:yaml.org,2002:float" => .float
  | "tag:yaml.org,2002:binary" => .binary
  | "tag:yaml.org,2002:timestamp" => .timestamp
  | "tag:yaml.org,2002:str" => .text
  | "tag:yaml.org,2002:seq" => .sequence
  | "tag:yaml.org,2002:map" => .mapping
  | "tag:yaml.org,2002:set" => .set
  | "tag:yaml.org,2002:omap" => .pairs
  | "tag:yaml.org,2002:pairs" => .pairs
  | "tag:yaml.org,2002:merge" => .merge
  | "tag:yaml.org,2002:value" => .value
  | name => .other name

/-! ## Flags and nothing -/

def spellings (word : String) : List String :=
  [word, word.capitalize, word.toUpper]

def flagWord? (s : String) : Option Bool :=
  if ["yes", "true", "on"].contains s then some true
  else if ["no", "false", "off"].contains s then some false
  else none

def isFlag (s : String) : Bool :=
  ["yes", "true", "on", "no", "false", "off"].any fun word => (spellings word).contains s

def isNothing (s : String) : Bool := s = "" || s = "~" || (spellings "null").contains s

/-! ## The looks of numbers -/

def isSpaced (p : Char → Bool) (c : Char) : Bool := p c || c = '_'

def unsigned (s : List Char) : List Char := (Whole.spanSign s).2

def isSixty : List Char → Bool
  | [d] => Text.isAsciiDigit d
  | [t, d] => '0' ≤ t && t ≤ '5' && Text.isAsciiDigit d
  | _ => false

def colonParts (s : List Char) : List (List Char) := s.splitOn ':'

def isBinaryDigit (c : Char) : Bool := c = '0' || c = '1'

def isOctalDigit (c : Char) : Bool := '0' ≤ c && c ≤ '7'

def isHexDigit (c : Char) : Bool := (Text.hexValue? c).isSome

def isPositive : List Char → Bool
  | d :: rest => '1' ≤ d && d ≤ '9' && rest.all (isSpaced Text.isAsciiDigit)
  | [] => false

def looksWhole (s : List Char) : Bool :=
  match unsigned s with
  | '0' :: 'b' :: d :: rest => (d :: rest).all (isSpaced isBinaryDigit)
  | '0' :: 'x' :: d :: rest => (d :: rest).all (isSpaced isHexDigit)
  | '0' :: rest => rest.all (isSpaced isOctalDigit)
  | body => match colonParts body with
    | head :: parts => isPositive head && parts.all isSixty
    | [] => false

def isExponent : List Char → Bool
  | [] => true
  | e :: sign :: d :: rest =>
    (e = 'e' || e = 'E') && (sign = '+' || sign = '-') && (d :: rest).all Text.isAsciiDigit
  | _ => false

def isSpacedNumber : List Char → Bool
  | d :: rest => Text.isAsciiDigit d && rest.all (isSpaced Text.isAsciiDigit)
  | [] => false

def looksFloat (s : List Char) : Bool :=
  let body := unsigned s
  let isSigned := body.length < s.length
  let whole := body.takeWhile (· ≠ '.')
  match body.dropWhile (· ≠ '.') with
  | [] => false
  | _ :: rest =>
    let fraction := rest.takeWhile (isSpaced Text.isAsciiDigit)
    let tail := rest.dropWhile (isSpaced Text.isAsciiDigit)
    match whole with
    | [] =>
      (["inf", "Inf", "INF"].map String.toList).contains rest
        || (!isSigned && (["nan", "NaN", "NAN"].map String.toList).contains rest)
        || (!isSigned && isSpacedNumber fraction && isExponent tail)
    | _ => match colonParts whole with
      | [_] => isSpacedNumber whole && isExponent tail
      | head :: parts => isSpacedNumber head && parts.all isSixty && tail.isEmpty
      | [] => false

/-! ## The looks of days and times -/

def spanNumber (least most : Nat) (s : List Char) : Option (Nat × List Char) :=
  let digits := (s.take most).takeWhile Text.isAsciiDigit
  if digits.length < least then none else some (Text.decimalValue digits, s.drop digits.length)

def expectChar (c : Char) : List Char → Option (List Char)
  | d :: rest => if d = c then some rest else none
  | [] => none

def spanDate (s : List Char) : Option (Date × List Char) := do
  let (year, afterYear) ← spanNumber 4 4 s
  let (month, afterMonth) ← spanNumber 1 2 (← expectChar '-' afterYear)
  let (day, rest) ← spanNumber 1 2 (← expectChar '-' afterMonth)
  return (⟨year, month, day⟩, rest)

def skipToTime : List Char → Option (List Char)
  | c :: rest =>
    if c = 'T' || c = 't' then some rest
    else if c = ' ' || c = '\t' then some (rest.dropWhile fun d => d = ' ' || d = '\t')
    else none
  | [] => none

def microsOf (digits : List Char) : Nat :=
  Text.decimalValue ((digits ++ List.replicate 6 '0').take 6)

def zoneOf? (s : List Char) : Option (Option Int) :=
  match s.dropWhile fun c => c = ' ' || c = '\t' with
  | [] => if s.isEmpty then some none else none
  | ['Z'] => some (some 0)
  | sign :: rest =>
    if sign = '+' || sign = '-' then do
      let (hours, after) ← spanNumber 1 2 rest
      let minutes ← match after with
        | [] => some 0
        | ':' :: more => match spanNumber 2 2 more with
          | some (m, []) => some m
          | _ => none
        | _ => none
      let offset : Int := (hours * 60 + minutes : Nat)
      return some (if sign = '-' then -offset else offset)
    else none

def timestampOf? (s : List Char) : Option (Date ⊕ Moment) := do
  let (date, afterDate) ← spanDate s
  if afterDate.isEmpty then return .inl date
  let (hour, afterHour) ← spanNumber 1 2 (← skipToTime afterDate)
  let (minute, afterMinute) ← spanNumber 2 2 (← expectChar ':' afterHour)
  let (second, afterSecond) ← spanNumber 2 2 (← expectChar ':' afterMinute)
  let (micros, rest) := match afterSecond with
    | '.' :: more =>
      (microsOf (more.takeWhile Text.isAsciiDigit), more.dropWhile Text.isAsciiDigit)
    | more => (0, more)
  return .inr ⟨date, hour, minute, second, micros, ← zoneOf? rest⟩

def looksTimestamp (s : List Char) : Bool :=
  match timestampOf? s with
  | some (.inl _) => s.length = 10
  | some (.inr _) => true
  | none => false

/-! ## Words -/

def mergeMark : String := "<<"

def valueMark : String := "="

def withoutLineEnd (s : String) : String :=
  if s.toList.getLast? = some '\n' && 1 < s.length then String.ofList s.toList.dropLast else s

def Tag.ofWord (word : String) : Tag :=
  let s := withoutLineEnd word
  if s = mergeMark then .merge
  else if s = valueMark then .value
  else if isNothing s then .null
  else if isFlag s then .flag
  else if looksFloat s.toList then .float
  else if looksWhole s.toList then .int
  else if looksTimestamp s.toList then .timestamp
  else .text

/-! ## Reading words -/

def ofWhole {α : Type} : Except Whole.Fault α → Reading α
  | .ok a => .ok a
  | .error fault => .error (.whole fault)

def wholePart (base : Nat) (s : List Char) : Reading Int := ofWhole (Whole.parse base (String.ofList s))

def sixtieths (parts : List (List Char)) : Reading Int := do
  return (← parts.mapM (wholePart 10)).foldl (fun n part => 60 * n + part) 0

def spanNumeral (s : String) : Reading (Bool × List Char) :=
  match s.toList.filter (· ≠ '_') with
  | [] => .error .emptyNumber
  | body => .ok (Whole.spanSign body)

def intOf (s : String) : Reading Int := do
  let (negative, body) ← spanNumeral s
  let size ← match body with
    | [] => .error .emptyNumber
    | ['0'] => pure 0
    | '0' :: 'b' :: rest => wholePart 2 rest
    | '0' :: 'x' :: rest => wholePart 16 rest
    | '0' :: _ => wholePart 8 body
    | _ => if body.contains ':' then sixtieths (colonParts body) else wholePart 10 body
  return if negative then -size else size

def floatPart (s : List Char) : Reading Binary64 :=
  match Binary64.ofText? (String.ofList s) with
  | some x => .ok x
  | none => .error (.decimal (String.ofList s))

/-- The sum of parts, the last of them first, each weighing sixty times what the one before does. A weight
must fit a float, whatever it weighs. -/
def floatSixtieths (weight : Int) (total : Binary64) : List Binary64 → Reading Binary64
  | [] => .ok total
  | part :: rest =>
    let factor := Binary64.ofInt weight
    if factor.isInfinite then .error .weight
    else floatSixtieths (60 * weight) (total.add (part.mul factor)) rest

def floatOf (s : String) : Reading Binary64 := do
  let (negative, body) ← spanNumeral s
  let word := Text.lower body
  if word = ".nan".toList then return Binary64.notANumber
  let size ← if word = ".inf".toList then pure (Binary64.infinity false)
    else if word.contains ':' then do
      floatSixtieths 1 (Binary64.ofInt 0) (← (colonParts word).mapM floatPart).reverse
    else floatPart word
  return if negative then size.negate else size

def flagOf (s : String) : Reading Bool :=
  let word := String.ofList (Text.lower s.toList)
  match flagWord? word with
  | some b => .ok b
  | none => .error (.flag word)

def timestampOf (s : String) : Reading Value :=
  match timestampOf? (withoutLineEnd s).toList with
  | none => .error .notTimestamp
  | some (.inl date) => match date.fault? with
    | some fault => .error (.calendar fault)
    | none => .ok (.date date)
  | some (.inr moment) => match moment.fault? with
    | some fault => .error (.calendar fault)
    | none => .ok (.moment moment)

def binaryOf (s : String) : Reading Value :=
  if s.toList.all fun c => c.toNat < 128 then
    orMalformed ((Base64.decode? s.toList).map .bytes)
  else malformed

def wordValue (tag : Tag) (s : String) : Reading Value :=
  match tag with
  | .null => .ok .null
  | .flag => (flagOf s).map .flag
  | .int => (intOf s).map .int
  | .float => (floatOf s).map .float
  | .binary => binaryOf s
  | .timestamp => timestampOf s
  | .text => .ok (.text s)
  | _ => malformed

end PluginKit.Yaml
