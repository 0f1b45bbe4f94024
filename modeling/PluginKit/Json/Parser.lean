import PluginKit.Number.Whole
import PluginKit.Text.Digit
import PluginKit.Text.Surrogate
import PluginKit.Value.Basic

/-!
Reading JSON. Blanks are space, tab, carriage return and line feed; `NaN` and the infinities are
accepted as numbers; of two fields with one key the later value wins, at the first one's place. A
text that is not JSON is refused with what is wrong and where. So is one that is nested too deeply or that
has an integer of too many digits.
-/

namespace PluginKit.Json

inductive Problem where
  | value
  | propertyName
  | colon
  | comma
  | extraData
  | unterminated
  | controlCharacter
  | escape
  | unicodeEscape
  | byteOrderMark
  | loneSurrogate
  | tooDeep (object : Bool)
  | tooLong (digits : Nat)
  deriving DecidableEq

def Problem.text : Problem → String
  | .value => "Expecting value"
  | .propertyName => "Expecting property name enclosed in double quotes"
  | .colon => "Expecting ':' delimiter"
  | .comma => "Expecting ',' delimiter"
  | .extraData => "Extra data"
  | .unterminated => "Unterminated string starting at"
  | .controlCharacter => "Invalid control character at"
  | .escape => "Invalid \\escape"
  | .unicodeEscape => "Invalid \\uXXXX escape"
  | .byteOrderMark => "Unexpected UTF-8 BOM (decode using utf-8-sig)"
  | .loneSurrogate => "lone surrogate"
  | .tooDeep object =>
    "maximum recursion depth exceeded while decoding a JSON " ++
      (if object then "object" else "array") ++ " from a unicode string"
  | .tooLong digits => (Whole.Fault.tooLong digits).message

/-- How much a reader puts up with: how many arrays and objects may be inside each other, whether those
that are empty count, and whether an escape may name half of a surrogate pair. -/
structure Limits where
  depth : Nat
  countsEmpty : Bool
  lone : Bool

def Limits.loose : Limits := ⟨970, true, true⟩

def Limits.strict : Limits := ⟨200, false, false⟩

structure Fault where
  problem : Problem
  rest : List Char
  deriving DecidableEq

abbrev Read (α : Type) := Except Fault (α × List Char)

def isSpace (c : Char) : Bool := c = ' ' || c = '\t' || c = '\n' || c = '\r'

def skipSpace (s : List Char) : List Char := s.dropWhile isSpace

/-! ## Texts -/

def readQuad : List Char → Option (Nat × List Char)
  | a :: b :: c :: d :: e :: rest => do
    let a ← Text.hexValue? a
    let b ← Text.hexValue? b
    let c ← Text.hexValue? c
    let d ← Text.hexValue? d
    return (((16 * a + b) * 16 + c) * 16 + d, e :: rest)
  | _ => none

def readLow (s : List Char) : Except Fault (Option (Nat × List Char)) :=
  match s with
  | '\\' :: 'u' :: rest =>
    if rest.length < 5 then .ok none
    else match readQuad rest with
      | none => .error ⟨.unicodeEscape, 'u' :: rest⟩
      | some (low, after) =>
        if 0xdc00 ≤ low && low < 0xe000 then .ok (some (low, after)) else .ok none
  | _ => .ok none

def loneUnit (limits : Limits) (n : Nat) (s after : List Char) : Read (List Char) :=
  if Text.isSurrogate n && !limits.lone then .error ⟨.loneSurrogate, s⟩
  else .ok (Text.charsOfCode n, after)

def readEscape (limits : Limits) (opening : List Char) : List Char → Read (List Char)
  | [] => .error ⟨.unterminated, opening⟩
  | 'u' :: rest =>
    match readQuad rest with
    | none => .error ⟨.unicodeEscape, 'u' :: rest⟩
    | some (high, after) =>
      if 0xd800 ≤ high && high < 0xdc00 then
        match readLow after with
        | .error fault => .error fault
        | .ok none => loneUnit limits high rest after
        | .ok (some (low, last)) => .ok (Text.charsOfCode (Text.pairCode high low), last)
      else loneUnit limits high rest after
  | c :: rest =>
    if c = '\x22' || c = '\\' || c = '/' then .ok ([c], rest)
    else if c = 'b' then .ok ([Char.ofNat 8], rest)
    else if c = 'f' then .ok ([Char.ofNat 12], rest)
    else if c = 'n' then .ok (['\n'], rest)
    else if c = 'r' then .ok (['\r'], rest)
    else if c = 't' then .ok (['\t'], rest)
    else .error ⟨.escape, '\\' :: c :: rest⟩

theorem readQuad_length {s rest : List Char} {n : Nat} (h : readQuad s = some (n, rest)) :
    rest.length < s.length := by
  unfold readQuad at h
  split at h
  · simp only [Option.bind_eq_bind, Option.bind_eq_some_iff, Option.pure_def, Option.some.injEq,
      Prod.mk.injEq] at h
    obtain ⟨_, _, _, _, _, _, _, _, _, rfl⟩ := h
    simp only [List.length_cons]
    omega
  · simp at h

theorem readLow_length {s rest : List Char} {n : Nat} (h : readLow s = .ok (some (n, rest))) :
    rest.length < s.length := by
  unfold readLow at h
  repeat' split at h
  all_goals simp at h
  rename_i quad _
  have := readQuad_length quad
  obtain ⟨_, rfl⟩ := h
  simp only [List.length_cons]
  omega

theorem loneUnit_rest {limits : Limits} {n : Nat} {s after rest found : List Char}
    (h : loneUnit limits n s after = .ok (found, rest)) : after = rest := by
  unfold loneUnit at h
  split at h
  · simp at h
  · simp only [Except.ok.injEq, Prod.mk.injEq] at h
    exact h.2

theorem readEscape_length {limits : Limits} {opening s rest found : List Char}
    (h : readEscape limits opening s = .ok (found, rest)) : rest.length < s.length := by
  unfold readEscape at h
  split at h
  · simp at h
  · split at h
    · simp at h
    · rename_i quad
      have shorter := readQuad_length quad
      simp only [List.length_cons]
      split at h
      · split at h
        · simp at h
        · have := loneUnit_rest h
          subst this
          omega
        · rename_i low
          have := readLow_length low
          obtain ⟨_, rfl⟩ : _ ∧ _ = rest := by simpa using h
          omega
      · have := loneUnit_rest h
        subst this
        omega
  · repeat' split at h
    all_goals simp at h
    all_goals
      obtain ⟨_, rfl⟩ := h
      simp

def readText (limits : Limits) (opening : List Char) (s : List Char) : Read (List Char) :=
  match s with
  | [] => .error ⟨.unterminated, opening⟩
  | c :: rest =>
    if c = '\x22' then .ok ([], rest)
    else if c = '\\' then
      match _h : readEscape limits opening rest with
      | .error fault => .error fault
      | .ok (d, after) =>
        match readText limits opening after with
        | .error fault => .error fault
        | .ok (text, last) => .ok (d ++ text, last)
    else if c.toNat < 0x20 then .error ⟨.controlCharacter, c :: rest⟩
    else
      match readText limits opening rest with
      | .error fault => .error fault
      | .ok (text, last) => .ok (c :: text, last)
termination_by s.length
decreasing_by
  · have := readEscape_length _h
    simp only [List.length_cons]
    omega
  · simp

/-! ## Numbers -/

def spanDigits (s : List Char) : List Char × List Char :=
  (s.takeWhile Text.isAsciiDigit, s.dropWhile Text.isAsciiDigit)

def readWhole : List Char → Option (List Char × List Char)
  | [] => none
  | c :: rest =>
    if c = '0' then some (['0'], rest)
    else if Text.isAsciiDigit c then some (spanDigits (c :: rest))
    else none

def readFraction : List Char → List Char × List Char
  | '.' :: rest =>
    let (digits, after) := spanDigits rest
    if digits.isEmpty then ([], '.' :: rest) else (digits, after)
  | s => ([], s)

def readExponent (s : List Char) : Option Int × List Char :=
  match s with
  | [] => (none, s)
  | c :: rest =>
    if c = 'e' || c = 'E' then
      let (negative, unsigned) := match rest with
        | '-' :: more => (true, more)
        | '+' :: more => (false, more)
        | more => (false, more)
      let (digits, after) := spanDigits unsigned
      if digits.isEmpty then (none, s)
      else
        let size : Int := Text.decimalValue digits
        (some (if negative then -size else size), after)
    else (none, s)

def readUnsigned (negative : Bool) (s : List Char) : Option (Except Nat Value × List Char) := do
  let (whole, afterWhole) ← readWhole s
  let (fraction, afterFraction) := readFraction afterWhole
  let (exponent, after) := readExponent afterFraction
  if fraction.isEmpty && exponent.isNone then
    if Whole.exceeds whole then return (.error whole.length, after)
    let size : Int := Text.decimalValue whole
    return (.ok (.int (if negative then -size else size)), after)
  else
    let digits := Text.decimalValue (whole ++ fraction)
    return (.ok (.float (Binary64.ofDecimal negative digits (exponent.getD 0 - fraction.length))), after)

def readNumber : List Char → Option (Except Nat Value × List Char)
  | '-' :: rest => readUnsigned true rest
  | s => readUnsigned false s

/-! ## Values -/

def constants : List (List Char × Value) :=
  [("null".toList, .null), ("true".toList, .flag true), ("false".toList, .flag false),
    ("NaN".toList, .float Binary64.notANumber), ("Infinity".toList, .float (Binary64.infinity false)),
    ("-Infinity".toList, .float (Binary64.infinity true))]

def readConstant (s : List Char) : Option (Value × List Char) :=
  constants.findSome? fun (word, value) =>
    if word.isPrefixOf s then some (value, s.drop word.length) else none

def readScalar (s : List Char) : Read Value :=
  match readConstant s with
  | some found => .ok found
  | none => match readNumber s with
    | some (.ok value, after) => .ok (value, after)
    | some (.error digits, _) => .error ⟨.tooLong digits, s⟩
    | none => .error ⟨.value, s⟩

def Limits.refuses (limits : Limits) (depth : Nat) (empty : Bool) : Bool :=
  limits.depth ≤ depth && (limits.countsEmpty || !empty)

mutual

def readValueWithin (limits : Limits) (depth : Nat) : Nat → List Char → Read Value
  | 0, s => .error ⟨.value, s⟩
  | steps + 1, s =>
    match s with
    | '\x22' :: rest =>
      match readText limits s rest with
      | .error fault => .error fault
      | .ok (text, after) => .ok (.text (String.ofList text), after)
    | '[' :: rest =>
      let first := skipSpace rest
      if limits.refuses depth (first.head? = some ']') then .error ⟨.tooDeep false, s⟩
      else match first with
        | ']' :: after => .ok (.list [], after)
        | _ => match readItemsWithin limits (depth + 1) steps first with
          | .error fault => .error fault
          | .ok (items, after) => .ok (.list items, after)
    | '\x7b' :: rest =>
      let first := skipSpace rest
      if limits.refuses depth (first.head? = some '\x7d') then .error ⟨.tooDeep true, s⟩
      else match first with
        | '\x7d' :: after => .ok (.object [], after)
        | _ => match readFieldsWithin limits (depth + 1) steps [] first with
          | .error fault => .error fault
          | .ok (fields, after) => .ok (.object fields, after)
    | _ => readScalar s

def readItemsWithin (limits : Limits) (depth : Nat) : Nat → List Char → Read (List Value)
  | 0, s => .error ⟨.value, s⟩
  | steps + 1, s =>
    match readValueWithin limits depth steps s with
    | .error fault => .error fault
    | .ok (value, after) =>
      match skipSpace after with
      | ']' :: rest => .ok ([value], rest)
      | ',' :: rest =>
        match readItemsWithin limits depth steps (skipSpace rest) with
        | .error fault => .error fault
        | .ok (items, last) => .ok (value :: items, last)
      | rest => .error ⟨.comma, rest⟩

def readFieldsWithin (limits : Limits) (depth : Nat) : Nat → Fields → List Char → Read Fields
  | 0, _, s => .error ⟨.value, s⟩
  | steps + 1, before, s =>
    match s with
    | '\x22' :: rest =>
      match readText limits s rest with
      | .error fault => .error fault
      | .ok (name, afterName) =>
        match skipSpace afterName with
        | ':' :: afterColon =>
          match readValueWithin limits depth steps (skipSpace afterColon) with
          | .error fault => .error fault
          | .ok (value, after) =>
            let fields := before.put (.text (String.ofList name)) value
            match skipSpace after with
            | '\x7d' :: last => .ok (fields, last)
            | ',' :: more => readFieldsWithin limits depth steps fields (skipSpace more)
            | more => .error ⟨.comma, more⟩
        | other => .error ⟨.colon, other⟩
    | other => .error ⟨.propertyName, other⟩

end

/-- The value that a whole text holds. Every step takes a character, so twice as many steps as there
are characters are enough. -/
def read (limits : Limits) (s : List Char) : Except Fault Value :=
  match s with
  | '\uFEFF' :: _ => .error ⟨.byteOrderMark, s⟩
  | _ =>
    match readValueWithin limits 0 (2 * s.length + 2) (skipSpace s) with
    | .error fault => .error fault
    | .ok (value, after) =>
      match skipSpace after with
      | [] => .ok value
      | rest => .error ⟨.extraData, rest⟩

structure Error where
  problem : Problem
  line : Nat
  column : Nat
  offset : Nat
  deriving DecidableEq

def Fault.locate (fault : Fault) (s : List Char) : Error :=
  let before := s.take (s.length - fault.rest.length)
  ⟨fault.problem, before.count '\n' + 1, Text.size (before.reverse.takeWhile (· != '\n')) + 1,
    Text.size before⟩

def Error.message (e : Error) : String :=
  match e.problem with
  | .tooDeep _ | .tooLong _ => e.problem.text
  | _ => e.problem.text ++ ": line " ++ toString e.line ++ " column " ++ toString e.column ++
    " (char " ++ toString e.offset ++ ")"

def parse (s : String) : Except Error Value :=
  (read .loose s.toList).mapError (·.locate s.toList)

def parseStrict (s : String) : Except Error Value :=
  (read .strict s.toList).mapError (·.locate s.toList)

end PluginKit.Json
