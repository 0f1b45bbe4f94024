import PluginKit.Text.Alphanumeric
import PluginKit.Text.Digit
import PluginKit.Text.Lines
import PluginKit.Text.Printable

/-!
Parameters of handlers in tags, such as `@click=open('a', 1)`: a name and literals in brackets. The values
are of no use to a plain text, but they have to be written well.
-/

namespace PluginKit.Handler

/-! ## Errors -/

inductive Problem where
  | syntaxError
  | missingComma
  | missingEquals
  | assigned
  | openText (triple : Bool)
  | continued
  | character (c : Char)
  | unmatched (c : Char)
  | mismatched (closing opening : Char)
  | unclosed (c : Char)
  | decimal
  | leadingZeros
  | ending
  | notLiteral
  deriving DecidableEq

namespace Problem

def message : Problem → String
  | .syntaxError | .ending => "invalid syntax"
  | .missingComma => "invalid syntax. Perhaps you forgot a comma?"
  | .missingEquals => "invalid syntax. Maybe you meant '==' or ':=' instead of '='?"
  | .assigned => "cannot assign to literal here. Maybe you meant '==' instead of '='?"
  | .openText triple =>
    "unterminated " ++ (if triple then "triple-quoted " else "") ++ "string literal (detected at line 1)"
  | .continued => "unexpected character after line continuation character"
  | .character c =>
    let n := c.toNat
    let code := "U+" ++ String.ofList ((Text.hex (if n < 0x10000 then 4 else 5) n).map Char.toUpper)
    if Text.isPrintable c then "invalid character '" ++ String.ofList [c] ++ "' (" ++ code ++ ")"
    else "invalid non-printable character " ++ code
  | .unmatched c => "unmatched '" ++ String.ofList [c] ++ "'"
  | .mismatched closing opening =>
    "closing parenthesis '" ++ String.ofList [closing] ++ "' does not match opening parenthesis '" ++
      String.ofList [opening] ++ "'"
  | .unclosed c => "'" ++ String.ofList [c] ++ "' was never closed"
  | .decimal => "invalid decimal literal"
  | .leadingZeros =>
    "leading zeros in decimal integer literals are not permitted; use an 0o prefix for octal integers"
  | .notLiteral => "malformed node or string on line 1"

def isSyntax : Problem → Bool
  | .notLiteral => false
  | _ => true

end Problem

/-! ## Tokens -/

inductive Token where
  | name (word : String)
  | number
  | text
  | dots
  | opening (c : Char)
  | closing (c : Char)
  | comma
  | colon
  | equals
  | dot
  | sign
  | star
  | operator
  | continued
  | other
  deriving DecidableEq

def isWordStart (c : Char) : Bool := c.isAlpha || c = '_' || (127 < c.toNat && Text.isPrintable c)

def isWord (c : Char) : Bool := isWordStart c || Text.isAsciiDigit c

def textLength? (quote : Char) (triple : Bool) : Nat → List Char → Option Nat
  | _, [] => none
  | n, '\\' :: _ :: rest => textLength? quote triple (n + 2) rest
  | n, c :: rest =>
    if triple then
      if [quote, quote, quote].isPrefixOf (c :: rest) then some (n + 3)
      else textLength? quote triple (n + 1) rest
    else if c = quote then some (n + 1)
    else if c = '\n' then none
    else textLength? quote triple (n + 1) rest

def readText (s : List Char) : Except Problem Nat :=
  match s with
  | q :: rest =>
    if [q, q].isPrefixOf rest then
      match textLength? q true 0 (rest.drop 2) with
      | some n => .ok (n + 3)
      | none => .error (.openText true)
    else match textLength? q false 0 rest with
      | some n => .ok (n + 1)
      | none => .error (.openText false)
  | [] => .error .syntaxError

def readNumber (s : List Char) : Except Problem Nat :=
  let isDigit := fun (c : Char) => Text.isAsciiDigit c || c = '_'
  let hexadecimal := match s with
    | '0' :: 'x' :: _ | '0' :: 'X' :: _ => true
    | _ => false
  let whole :=
    if hexadecimal then s.take 2 ++ (s.drop 2).takeWhile fun c => (Text.hexValue? c).isSome
    else s.takeWhile isDigit
  let fraction := match s.drop whole.length with
    | '.' :: rest => '.' :: rest.takeWhile isDigit
    | _ => []
  let length := whole.length + fraction.length
  let rest := s.drop length
  let power := match rest with
    | c :: more =>
      let sign := if more.head? = some '-' || more.head? = some '+' then 1 else 0
      let digits := ((more.drop sign).takeWhile isDigit).length
      if (c = 'e' || c = 'E') && digits ≠ 0 then 1 + sign + digits else 0
    | [] => 0
  let unit := match rest.drop power with
    | 'j' :: _ | 'J' :: _ => 1
    | _ => 0
  let all := length + power + unit
  if fraction.isEmpty && power = 0 && unit = 0 && !hexadecimal && whole.head? = some '0' &&
      !whole.all (fun c => c = '0' || c = '_') then .error .leadingZeros
  else match (s.drop all).head? with
    | some c =>
      if 127 < c.toNat && !Text.isAlphanumeric c then .error (.character c)
      else if isWordStart c || whole.getLast? = some '_' then .error .decimal
      else .ok all
    | none => if whole.getLast? = some '_' then .error .decimal else .ok all

def textMarks : List String := ["r", "u", "b", "f", "br", "rb", "fr", "rf"]

def token (s : List Char) : Except Problem (Token × Nat) :=
  match s with
  | [] => .ok (.other, 0)
  | c :: rest =>
    let word := s.takeWhile isWord
    let after := s.drop word.length
    let quoted := match after with
      | q :: _ => (q = '\'' || q = '"') && textMarks.contains (String.ofList (word.map Char.toLower))
      | [] => false
    if c = '\'' || c = '"' then (readText s).map (.text, ·)
    else if quoted then (readText after).map fun n => (.text, word.length + n)
    else if Text.isAsciiDigit c || (c = '.' && (rest.head?.map Text.isAsciiDigit).getD false) then
      (readNumber s).map (.number, ·)
    else if isWordStart c then
      match word.find? fun d => 127 < d.toNat && !Text.isAlphanumeric d with
      | some d => .error (.character d)
      | none => .ok (.name (String.ofList word), word.length)
    else if ['.', '.'].isPrefixOf rest && c = '.' then .ok (.dots, 3)
    else if 127 < c.toNat then .error (.character c)
    else
      let two := String.ofList (s.take 2)
      if ["==", "!=", "<=", ">=", "//", "**", "<<", ">>"].contains two then .ok (.operator, 2)
      else .ok (match c with
        | '(' | '{' => .opening c
        | ')' | '}' => .closing c
        | ',' => .comma
        | ':' => .colon
        | '=' => .equals
        | '.' => .dot
        | '+' | '-' => .sign
        | '*' => .star
        | '/' | '%' | '@' | '&' | '|' | '^' | '<' | '>' => .operator
        | _ => .other, 1)

def partner : Char → Char
  | ')' => '('
  | _ => '{'

/-- All tokens of a text, and the innermost bracket that is never closed; `skip` characters belong to a
token seen before, and `opened` are the brackets that are open, the innermost first. Nothing is read behind a
backslash. -/
def tokensFrom (opened : List Char) (skip : Nat) :
    List Char → Except Problem (List Token × Option Char)
  | [] => .ok ([], opened.head?)
  | c :: rest =>
    let after := fun (found : Token) (opened : List Char) (skip : Nat) =>
      (tokensFrom opened skip rest).map fun (tokens, unclosed) => (found :: tokens, unclosed)
    match skip with
    | k + 1 => tokensFrom opened k rest
    | 0 =>
      if c = ' ' || c = '\t' || c = '\x0c' || (c = '\n' && !opened.isEmpty) then tokensFrom opened 0 rest
      else if c = '#' then tokensFrom opened (rest.takeWhile (· ≠ '\n')).length rest
      else if c = '\\' then .ok ([.continued], none)
      else match token (c :: rest) with
        | .error problem => .error problem
        | .ok (.opening b, _) => after (.opening b) (b :: opened) 0
        | .ok (.closing b, _) => match opened with
          | [] => .error (.unmatched b)
          | a :: outer => if partner b = a then after (.closing b) outer 0 else .error (.mismatched b a)
        | .ok (found, n) => after found opened (n - 1)

/-! ## Literals -/

inductive Shape where
  | number
  | literal
  | name
  | computed
  deriving DecidableEq

def Shape.isLiteral (shape : Shape) : Bool := shape = .number || shape = .literal

def startsOperand : Token → Bool
  | .name word => !(["if", "else", "for", "and", "or", "in", "is"].contains word)
  | .number | .text | .dots | .opening _ => true
  | _ => false

def keywords : List String :=
  ["and", "as", "assert", "async", "await", "break", "class", "continue", "def", "del", "elif", "else",
    "except", "finally", "for", "from", "global", "if", "import", "in", "is", "lambda", "nonlocal", "not",
    "or", "pass", "raise", "return", "try", "while", "with", "yield"]

abbrev Read := Except Problem (Shape × List Token)

def refusal : List Token → Problem
  | [] => .ending
  | .continued :: _ => .continued
  | _ => .syntaxError

mutual

def expression : Nat → Bool → List Token → Read
  | 0, _, _ => .error .syntaxError
  | steps + 1, inner, tokens => do
    let (first, rest) ← signed steps inner tokens
    match rest with
    | .sign :: more =>
      let (second, after) ← expression steps inner more
      return (if first = .number && second = .number then .number else .computed, after)
    | .operator :: more | .star :: more =>
      let (_, after) ← expression steps inner more
      return (.computed, after)
    | .name "if" :: more =>
      let (_, after) ← expression steps inner more
      throw (refusal after)
    | rest => return (first, rest)

def signed : Nat → Bool → List Token → Read
  | 0, _, _ => .error .syntaxError
  | steps + 1, inner, .sign :: rest => do
    let (shape, after) ← signed steps inner rest
    return (if shape = .number then .number else .computed, after)
  | steps + 1, inner, tokens => do
    let (shape, rest) ← operand steps tokens
    calls steps inner shape rest

def calls : Nat → Bool → Shape → List Token → Read
  | 0, _, _, _ => .error .syntaxError
  | steps + 1, inner, shape, tokens =>
    match tokens with
    | .opening '(' :: rest => do
      let (_, after) ← members steps ')' false 0 rest
      calls steps inner .computed after
    | .dot :: .name _ :: rest => calls steps inner .computed rest
    | rest => .ok (shape, rest)

def operand : Nat → List Token → Read
  | 0, _ => .error .syntaxError
  | steps + 1, tokens =>
    match tokens with
    | .number :: rest => .ok (.number, rest)
    | .dots :: rest => .ok (.literal, rest)
    | .text :: rest => .ok (.literal, rest.dropWhile (· = .text))
    | .name word :: rest =>
      if ["True", "False", "None"].contains word then .ok (.literal, rest)
      else if keywords.contains word then .error .syntaxError
      else .ok (.name, rest)
    | .opening '(' :: rest => members steps ')' false 0 rest
    | .opening _ :: rest => members steps '}' true 0 rest
    | tokens => .error (refusal tokens)

def members : Nat → Char → Bool → Nat → List Token → Read
  | 0, _, _, _, _ => .error .syntaxError
  | steps + 1, closer, pairs, count, tokens =>
    match tokens with
    | .closing c :: rest => if c = closer then .ok (.literal, rest) else .error .syntaxError
    | .star :: rest => match expression steps true rest with
      | .error problem => .error problem
      | .ok (_, after) => .error (refusal after)
    | tokens => do
      let (first, afterFirst) ← expression steps true tokens
      let (shape, rest) ← match afterFirst with
        | .colon :: more =>
          if pairs then do
            let (second, after) ← expression steps true more
            pure (if first.isLiteral && second.isLiteral then Shape.literal else .computed, after)
          else .error .syntaxError
        | more => pure (first, more)
      match rest with
      | .comma :: more =>
        let (others, after) ← members steps closer pairs (count + 1) more
        return (if shape.isLiteral && others.isLiteral then .literal else .computed, after)
      | .closing c :: more =>
        if c ≠ closer then throw .syntaxError
        return (if count = 0 && !pairs then shape else if shape.isLiteral then .literal else .computed, more)
      | .equals :: more =>
        let (_, after) ← expression steps true more
        match after with
        | [] => throw .ending
        | .equals :: _ => throw .syntaxError
        | _ => throw (if shape = .name then .missingEquals
            else if shape.isLiteral then .assigned else .syntaxError)
      | next :: _ =>
        if startsOperand next then
          match expression steps true rest with
          | .error problem => throw problem
          | .ok (_, []) => throw .ending
          | .ok _ => throw (if shape = .name && next = .text then .syntaxError else .missingComma)
        else throw (refusal rest)
      | [] => throw .ending

end

def afterwards : Nat → Bool → List Token → Problem
  | 0, _, _ => .syntaxError
  | steps + 1, named, tokens =>
    match expression steps false tokens with
    | .error problem => if problem = .ending then .ending else .syntaxError
    | .ok (_, []) => .syntaxError
    | .ok (shape, .comma :: rest) => if named then afterwards steps (shape = .name) rest else .syntaxError
    | .ok (shape, next :: rest) =>
      if named && shape = .name && startsOperand next then afterwards steps true (next :: rest)
      else .syntaxError

def expressions : Nat → List Token → Except Problem Shape
  | 0, _ => .error .syntaxError
  | steps + 1, tokens => do
    let (shape, rest) ← expression steps false tokens
    match rest with
    | [] => return shape
    | [.comma] => return shape
    | .comma :: more =>
      let others ← expressions steps more
      return if shape.isLiteral && others.isLiteral then .literal else .computed
    | next :: _ =>
      throw (if startsOperand next then afterwards steps (shape = .name) rest else refusal rest)

def problem? (s : List Char) : Option Problem :=
  match tokensFrom [] 0 s with
  | .error problem => some problem
  | .ok (tokens, unclosed) => match expressions (8 * tokens.length + 8) tokens, unclosed with
    | .error .ending, some c => some (.unclosed c)
    | .error problem, _ => some problem
    | .ok shape, _ => if shape.isLiteral then none else some .notLiteral

/-! ## Parameters -/

def literals (s : List Char) : List Char :=
  let isName := fun (c : Char) => Text.isAlphanumeric c || c = '_' || c = '.'
  match s.dropWhile isName with
  | [] => ['(', ')']
  | rest =>
    if rest.head? = some '(' && rest.getLast? = some ')' && !rest.contains '\n' then rest else s

structure Fault where
  parameters : List Char
  problem : Problem
  deriving DecidableEq

def Fault.message (fault : Fault) : String :=
  let whole := Text.quoted (String.ofList fault.parameters)
  if fault.problem.isSyntax then
    "error parsing " ++ Text.quoted (String.ofList (literals (Text.trim fault.parameters))) ++ " in " ++
      whole ++ "; " ++ fault.problem.message
  else "error parsing " ++ whole ++ "; " ++ fault.problem.message

def fault? (parameters : List Char) : Option Fault :=
  if parameters.isEmpty then none
  else (problem? (literals (Text.trim parameters))).map (⟨parameters, ·⟩)

end PluginKit.Handler
