import PluginKit.Value.Literal

/-!
Messages with places for values. A place is a percent sign, a key in brackets, flags, a width, a precision and a letter
that says how to show a value; all but the sign and the letter may be left out. A width or a precision of `*` is taken
from the values. Two percent signs are one, and without values a message stands as it is.
-/

namespace PluginKit.Log

inductive TemplateFault where
  | tooFew
  | tooMany
  | notNumber (letter : Char) (kind : String)
  | notReal (kind : String)
  | notFinite (x : Binary64)
  | notDouble
  | notCharacter
  | noCharacter
  | unknownPlace (code : Nat) (index : Nat)
  | openPlace
  | openKey
  | notMapping
  | noKey (name : String)
  | notCount
  | countTooBig (what : String)
  | countTooLarge (type : String)
  deriving DecidableEq

namespace TemplateFault

def message : TemplateFault → String
  | .tooFew => "not enough arguments for format string"
  | .tooMany => "not all arguments converted during string formatting"
  | .notNumber letter kind =>
    let wanted := if letter ∈ ['o', 'x', 'X'] then "an integer" else "a real number"
    "%" ++ String.singleton letter ++ " format: " ++ wanted ++ " is required, not " ++ kind
  | .notReal kind => "must be real number, not " ++ kind
  | .notFinite x =>
    if x.isNaN then "cannot convert float NaN to integer"
    else "cannot convert float infinity to integer"
  | .notDouble => "int too large to convert to float"
  | .notCharacter => "%c requires int or char"
  | .noCharacter => "%c arg not in range(0x110000)"
  | .unknownPlace code index =>
    let shown := if 0x1f ≤ code && code < 0x7f then Char.ofNat code else '?'
    "unsupported format character '" ++ String.singleton shown ++ "' (0x" ++
      String.ofList (Nat.toDigits 16 code) ++ ") at index " ++ toString index
  | .openPlace => "incomplete format"
  | .openKey => "incomplete format key"
  | .notMapping => "format requires a mapping"
  | .noKey name => Text.quoted name
  | .notCount => "* wants int"
  | .countTooBig what => what ++ " too big"
  | .countTooLarge type => "Python int too large to convert to C " ++ type

end TemplateFault

namespace Template

/-! ## Reading a template -/

inductive Count where
  | unset
  | number (n : Nat)
  | asked

def Count.extend (digit : Char) : Count → Count
  | .number n => .number (10 * n + (digit.toNat - '0'.toNat))
  | _ => .number (digit.toNat - '0'.toNat)

structure Place where
  key : Option String
  flags : List Char
  width : Count
  precision : Count

inductive Stage where
  | flags
  | width
  | afterWidth
  | point
  | precision
  | afterPrecision
  | size
  deriving DecidableEq

namespace Place

def start (key : Option String) : Place := ⟨key, [], .unset, .unset⟩

def hasFlag (p : Place) (flag : Char) : Bool := p.flags.contains flag

def take? (p : Place) (stage : Stage) (c : Char) : Option (Place × Stage) :=
  if stage = .flags && ['-', '+', ' ', '#', '0'].contains c then some ({ p with flags := c :: p.flags }, .flags)
  else if stage = .flags && c = '*' then some ({ p with width := .asked }, .afterWidth)
  else if (stage = .flags || stage = .width) && c.isDigit then some ({ p with width := p.width.extend c }, .width)
  else if [Stage.flags, .width, .afterWidth].contains stage && c = '.' then
    some ({ p with precision := .number 0 }, .point)
  else if stage = .point && c = '*' then some ({ p with precision := .asked }, .afterPrecision)
  else if (stage = .point || stage = .precision) && c.isDigit then
    some ({ p with precision := p.precision.extend c }, .precision)
  else if stage ≠ .size && ['h', 'l', 'L'].contains c then some (p, .size)
  else none

end Place

inductive Piece where
  | text (chars : List Char)
  | place (p : Place) (letter : List Char) (index : Nat)
  | openPlace (p : Place)
  | openKey

inductive Mode where
  | plain
  | opened
  | key (depth : Nat) (name : List Char)
  | place (p : Place) (stage : Stage)

namespace Mode

def inPlace (p : Place) (stage : Stage) (index : Nat) (piece : List Char) : Mode × Option Piece :=
  match piece.head?.bind (p.take? stage) with
  | some (p, stage) => (.place p stage, none)
  | none => (.plain, some (.place p piece index))

-- The piece is one character, or one surrogate with its mark.
def step (index : Nat) (piece : List Char) : Mode → Mode × Option Piece
  | .plain => if piece = ['%'] then (.opened, none) else (.plain, some (.text piece))
  | .opened =>
    if piece = ['%'] then (.plain, some (.text piece))
    else if piece = ['('] then (.key 1 [], none)
    else inPlace (.start none) .flags index piece
  | .key depth name =>
    if piece = [')'] && depth = 1 then (.place (.start (some (String.ofList name))) .flags, none)
    else
      let depth := if piece = [')'] then depth - 1 else if piece = ['('] then depth + 1 else depth
      (.key depth (name ++ piece), none)
  | .place p stage => inPlace p stage index piece

def last? : Mode → Option Piece
  | .plain => none
  | .opened => some (.openPlace (.start none))
  | .key _ _ => some .openKey
  | .place p _ => some (.openPlace p)

end Mode

def readPieces (mode : Mode) (index : Nat) : List (List Char) → List Piece
  | [] => mode.last?.toList
  | piece :: rest =>
    let (next, found) := mode.step index piece
    found.toList ++ readPieces next (index + 1) rest

/-! ## Showing a value -/

structure Shape where
  numeric : Bool
  negative : Bool
  mark : List Char
  body : List Char

namespace Shape

def ofText (precision : Option Nat) (text : String) : Shape :=
  ⟨false, false, [], match precision with
    | some n => Text.takeCodes n text.toList
    | none => text.toList⟩

def ofInt (base : Nat) (mark : List Char) (precision : Option Nat) (n : Int) : Shape :=
  let digits := Nat.toDigits base n.natAbs
  ⟨true, n < 0, mark, List.replicate (precision.getD 0 - digits.length) '0' ++ digits⟩

def ofFloat (letter : Char) (pointed : Bool) (precision : Option Nat) (x : Binary64) : Shape :=
  let places := precision.getD 6
  let body :=
    if x.isNaN then ['n', 'a', 'n']
    else if x.isInfinite then ['i', 'n', 'f']
    else match letter with
      | 'f' => x.fixedText places pointed
      | 'e' => x.scientificText places pointed
      | _ => x.generalText (max places 1) pointed
  ⟨true, x.negative && !x.isNaN, [], body⟩

def upper (s : Shape) : Shape := { s with mark := s.mark.map Char.toUpper, body := s.body.map Char.toUpper }

def lay (p : Place) (left : Bool) (width : Nat) (s : Shape) : List Char :=
  let sign :=
    if s.negative then ['-']
    else if s.numeric && p.hasFlag '+' then ['+']
    else if s.numeric && p.hasFlag ' ' then [' ']
    else []
  let front := sign ++ s.mark
  let missing := width - Text.size (front ++ s.body)
  if left then front ++ s.body ++ List.replicate missing ' '
  else if s.numeric && p.hasFlag '0' then front ++ List.replicate missing '0' ++ s.body
  else List.replicate missing ' ' ++ front ++ s.body

end Shape

def asciiText (s : String) : String :=
  String.ofList ((Text.codes s.toList).flatMap fun n =>
    if n < 0x80 then [Char.ofNat n]
    else if n < 0x100 then '\\' :: 'x' :: Text.hex 2 n
    else if n < 0x10000 then '\\' :: 'u' :: Text.hex 4 n
    else '\\' :: 'U' :: Text.hex 8 n)

def wholeNumber (letter : Char) : Value → Except TemplateFault Int
  | .int n => .ok n
  | .flag b => .ok (if b then 1 else 0)
  | .float x =>
    if letter ∈ ['o', 'x', 'X'] then .error (.notNumber letter "float")
    else if x.isFinite then .ok x.truncate
    else .error (.notFinite x)
  | v => .error (.notNumber letter v.kind)

def realNumber : Value → Except TemplateFault Binary64
  | .float x => .ok x
  | .flag b => .ok (.ofInt (if b then 1 else 0))
  | .int n => if (Binary64.ofInt n).isFinite then .ok (.ofInt n) else .error .notDouble
  | v => .error (.notReal v.kind)

def character : Value → Except TemplateFault String
  | .int n => if 0 ≤ n && n < 0x110000 then .ok (String.ofList (Text.charsOfCode n.toNat)) else .error .noCharacter
  | .flag b => .ok (String.singleton (Char.ofNat (if b then 1 else 0)))
  | .text s => if Text.size s.toList = 1 then .ok s else .error .notCharacter
  | _ => .error .notCharacter

def Place.shape (p : Place) (letter : List Char) (index : Nat) (precision : Option Nat) (v : Value) :
    Except TemplateFault Shape :=
  let marked := p.hasFlag '#'
  let whole := fun (letter : Char) (base : Nat) (mark : List Char) =>
    (wholeNumber letter v).map (Shape.ofInt base (if marked then mark else []) precision)
  match letter with
  | ['s'] => .ok (.ofText precision v.display)
  | ['r'] => .ok (.ofText precision v.literal)
  | ['a'] => .ok (.ofText precision (asciiText v.literal))
  | ['c'] => (character v).map (Shape.ofText none)
  | ['d'] => whole 'd' 10 []
  | ['i'] => whole 'i' 10 []
  | ['u'] => whole 'u' 10 []
  | ['o'] => whole 'o' 8 ['0', 'o']
  | ['x'] => whole 'x' 16 ['0', 'x']
  | ['X'] => (whole 'X' 16 ['0', 'x']).map Shape.upper
  | ['e'] => (realNumber v).map (Shape.ofFloat 'e' marked precision)
  | ['E'] => (realNumber v).map (Shape.upper ∘ Shape.ofFloat 'e' marked precision)
  | ['f'] => (realNumber v).map (Shape.ofFloat 'f' marked precision)
  | ['F'] => (realNumber v).map (Shape.upper ∘ Shape.ofFloat 'f' marked precision)
  | ['g'] => (realNumber v).map (Shape.ofFloat 'g' marked precision)
  | ['G'] => (realNumber v).map (Shape.upper ∘ Shape.ofFloat 'g' marked precision)
  | other => .error (.unknownPlace (Text.codeOfPiece other) index)

/-! ## Filling in -/

structure Supply where
  fields : Option Fields
  left : List Value

abbrev Filling := StateT Supply (Except TemplateFault)

def next : Filling Value := do
  match (← get).left with
  | [] => throw .tooFew
  | v :: rest =>
    modify fun s => { s with left := rest }
    return v

def Count.settle (what type : String) (limit : Nat) : Count → Filling (Option Int)
  | .unset => return none
  | .number n => if n < limit then return some n else throw (.countTooBig what)
  | .asked => do
    let n : Int ← match ← next with
      | .int n => pure n
      | .flag b => pure (if b then 1 else 0)
      | _ => throw .notCount
    if -limit ≤ n && n < limit then return some n else throw (.countTooLarge type)

def Place.settle (p : Place) : Filling (Option Int × Option Int) := do
  match p.key, (← get).fields with
  | none, _ => pure ()
  | some _, none => throw .notMapping
  | some name, some fields => match Fields.get? fields name with
    | none => throw (.noKey name)
    | some v => modify fun s => { s with left := [v] }
  let width ← p.width.settle "width" "ssize_t" (Nat.pow 2 63)
  return (width, ← p.precision.settle "precision" "int" (Nat.pow 2 31))

def Piece.fill : Piece → Filling (List Char)
  | .text chars => return chars
  | .openKey => do throw (if (← get).fields.isSome then .openKey else .notMapping)
  | .openPlace p => do
    let _ ← p.settle
    throw .openPlace
  | .place p letter index => do
    let (width, precision) ← p.settle
    let shape ← liftM (p.shape letter index (precision.map Int.toNat) (← next))
    -- A width below zero asks for blanks on the right.
    let width := width.getD 0
    return shape.lay p (p.hasFlag '-' || width < 0) width.natAbs

end Template

/-- The text of a message with its values. An object that is the only value is also what keys are looked up in, and it
need not be used. -/
def format (template : String) (args : List Value) : Except TemplateFault String :=
  if args.isEmpty then .ok template
  else
    let fields := match args with
      | [.object (field :: rest)] => some (field :: rest)
      | _ => none
    match ((Template.readPieces .plain 0 (Text.pieces template.toList)).mapM Template.Piece.fill).run ⟨fields, args⟩ with
    | .error fault => .error fault
    | .ok (texts, after) =>
      if fields.isNone && !after.left.isEmpty then .error .tooMany
      else .ok (String.ofList texts.flatten)

end PluginKit.Log
