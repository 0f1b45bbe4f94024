import PluginKit.Files
import PluginKit.Number.Reading
import PluginKit.Schema.Fault
import PluginKit.Text.Utf8
import PluginKit.Value.Literal

/-!
What counts as an integer, a flag, a number, a text, and so on. Checks are lenient: numbers and flags
may come as texts, texts as bytes, and a flag or a whole float may stand for an integer.
-/

namespace PluginKit.Schema

def isMargin (c : Char) : Bool :=
  let n := c.toNat
  (9 ≤ n && n ≤ 13) || n == 32 || n == 0x85 || n == 0xa0 || n == 0x1680 ||
    (0x2000 ≤ n && n ≤ 0x200a) || n == 0x2028 || n == 0x2029 || n == 0x202f || n == 0x205f ||
    n == 0x3000

def withoutMargin (s : List Char) : List Char :=
  ((s.dropWhile isMargin).reverse.dropWhile isMargin).reverse

/-! ## Numbers as texts -/

def plainInt (s : List Char) : Except Kind Int :=
  let (negative, unsigned) := match s with
    | '-' :: rest => (true, rest)
    | rest => (false, rest)
  let digits := unsigned.takeWhile Text.isAsciiDigit
  let padded := digits.head? = some '0'
  if !padded && Whole.exceeds digits then .error .intSize
  else if digits.isEmpty || digits.length < unsigned.length || (padded && 1 < digits.length) then
    .error .intParsing
  else
    let size : Int := Text.decimalValue digits
    .ok (if negative then -size else size)

def afterZeros : Char → List Char → Option (List Char)
  | last, [] => some [last]
  | last, c :: rest =>
    if c = '0' || c = '_' then afterZeros c rest
    else if ('1' ≤ c && c ≤ '9') || c = '-' then some (c :: rest)
    else if c = '.' then some (last :: c :: rest)
    else none

def withoutZeros : List Char → Option (List Char)
  | [] => none
  | c :: rest =>
    if c = '0' then afterZeros c rest
    else if ('1' ≤ c && c ≤ '9') || c = '-' then some (c :: rest)
    else none

def withoutFraction (s : List Char) : List Char :=
  match s.dropWhile (· ≠ '.') with
  | _ :: zeros => if !zeros.isEmpty && zeros.all (· = '0') then s.takeWhile (· ≠ '.') else s
  | [] => s

def hasDoubled : List Char → Bool
  | '_' :: '_' :: _ => true
  | _ :: rest => hasDoubled rest
  | [] => false

def withoutUnderscores (s : List Char) : Option (List Char) :=
  if s.head? = some '_' || s.getLast? = some '_' || !s.contains '_' || hasDoubled s then none
  else some (s.filter (· ≠ '_'))

def plainForm (s : List Char) : Option (List Char) :=
  (withoutZeros s).map fun rest =>
    let short := withoutFraction rest
    (withoutUnderscores short).getD short

def signedForm : List Char → Option (List Char)
  | '-' :: rest => (plainForm rest).map ('-' :: ·)
  | '+' :: '-' :: _ => none
  | '+' :: rest => plainForm rest
  | s => plainForm s

def intOfText (s : String) : Except Kind Int :=
  let inner := withoutMargin s.toList
  match plainInt inner with
  | .ok n => .ok n
  | .error .intSize => .error .intSize
  | .error _ => match (signedForm inner).map plainInt with
    | some (.ok n) => .ok n
    | _ => .error .intParsing

def floatOfText? (s : String) : Option Binary64 :=
  match Binary64.ofAscii? (withoutMargin s.toList) with
  | some x => some x
  | none => (withoutUnderscores s.toList).bind Binary64.ofAscii?

def flagOfText? (s : String) : Option Bool :=
  let word := String.ofList (Binary64.lowerAscii s.toList)
  if ["0", "off", "f", "false", "n", "no"].contains word then some false
  else if ["1", "on", "t", "true", "y", "yes"].contains word then some true
  else none

/-! ## Checks -/

def encoded {α : Type} (other : Kind) (check : String → Checked α) (data : List UInt8) : Checked α :=
  match Utf8.decode data with
  | .ok s => check s
  | .error _ => .fault other

def written {α : Type} (check : String → Checked α) (s : String) : Checked α :=
  if (Utf8.encodeFault? s).isSome then .fault .textUnicode else check s

def text : Value → Checked String
  | .text s => .valid s
  | .bytes data => encoded .textUnicode .valid data
  | _ => .fault .textType

def isShort (n : Int) : Bool := -0x8000000000000000 ≤ n && n < 0x8000000000000000

def intOfFloat (x : Binary64) : Except Kind Int :=
  if !x.isFinite then .error .finiteNumber
  else match x.toInt? with
    | none => .error .intFromFloat
    | some n => if -0x8000000000000000 < n && n < 0x8000000000000000 then .ok n else .error .intSize

def ofKind {α : Type} : Except Kind α → Checked α
  | .ok a => .valid a
  | .error kind => .fault kind

def int : Value → Checked Int
  | .int n => .valid n
  | .flag b => .valid (if b then 1 else 0)
  | .float x => ofKind (intOfFloat x)
  | .text s => written (fun s => ofKind (intOfText s)) s
  | .bytes data => encoded .intParsing (fun s => ofKind (intOfText s)) data
  | _ => .fault .intType

def flagOfInt (n : Int) : Checked Bool :=
  if n = 0 then .valid false else if n = 1 then .valid true else .fault .flagParsing

def flagOfWord (s : String) : Checked Bool :=
  match flagOfText? s with
  | some b => .valid b
  | none => .fault .flagParsing

def flag : Value → Checked Bool
  | .flag b => .valid b
  | .int n => if isShort n then flagOfInt n else .fault .flagType
  | .float x => match intOfFloat x with
    | .ok n => flagOfInt n
    | .error _ => .fault .flagType
  | .text s => written flagOfWord s
  | .bytes data => encoded .flagParsing flagOfWord data
  | _ => .fault .flagType

def floatOfWord (s : String) : Checked Binary64 :=
  match floatOfText? s with
  | some x => .valid x
  | none => .fault .floatParsing

def float : Value → Checked Binary64
  | .float x => .valid x
  | .int n =>
    let x := Binary64.ofInt n
    if x.isFinite then .valid x else .fault .floatType
  | .flag b => .valid (Binary64.ofInt (if b then 1 else 0))
  | .text s => written floatOfWord s
  | .bytes data => encoded .floatParsing floatOfWord data
  | _ => .fault .floatType

def path : Value → Checked Path
  | .text s => .valid (Path.ofString s)
  | _ => .fault .pathType

def choice (options : List String) : Value → Checked String
  | .text s => written (fun s => if options.contains s then .valid s else .fault .choice) s
  | _ => .fault .choice

def optional {α : Type} (check : Value → Checked α) : Value → Checked (Option α)
  | .null => .valid none
  | v => (check v).map some

def keyStep : Key → Step
  | .text s => .field s
  | .int n => if isShort n then .index n else .field (intText n)
  | .flag b => .index (if b then 1 else 0)
  | key => .field key.literal

def keyText : Key → Except Kind String
  | .text s => .ok s
  | .bytes data => (Utf8.decode data).mapError fun _ => .textUnicode
  | _ => .error .textType

def keyFaults (fields : Fields) : List Fault :=
  fields.filterMap fun field => match keyText field.1 with
    | .ok _ => none
    | .error kind => some ⟨kind, [keyStep field.1, .field "[key]"]⟩

def mapping : Value → Checked Fields
  | .object fields =>
    let faults := keyFaults fields
    if faults.isEmpty then
      .valid (Fields.ofPairs (fields.map fun field => match keyText field.1 with
        | .ok name => (.text name, field.2)
        | .error _ => field))
    else .invalid faults
  | _ => .fault .mappingType

def items {α : Type} (check : Value → Checked α) : Nat → List Value → Checked (List α)
  | _, [] => .valid []
  | n, v :: rest => .both (((check v).under (.index n)).map List.cons) (items check (n + 1) rest)

def list {α : Type} (check : Value → Checked α) : Value → Checked (List α)
  | .list values => items check 0 values
  | _ => .fault .listType

end PluginKit.Schema
