/-!
White space, lines and control sequences. Blanks and line ends are those of every script, and a carriage return and the
line feed after it are one end. Terminals take an escape and a bracket, some numbers, and a letter for a control
sequence; a text that may end up elsewhere is printed without them.
-/

namespace PluginKit.Text

def isBlank (c : Char) : Bool :=
  let n := c.toNat
  (9 ≤ n && n ≤ 13) || (28 ≤ n && n ≤ 32) || n == 0x85 || n == 0xa0 || n == 0x1680 ||
    (0x2000 ≤ n && n ≤ 0x200a) || n == 0x2028 || n == 0x2029 || n == 0x202f || n == 0x205f ||
    n == 0x3000

def trimStart (s : List Char) : List Char := s.dropWhile isBlank

def trimEnd (s : List Char) : List Char := (s.reverse.dropWhile isBlank).reverse

def trim (s : List Char) : List Char := trimEnd (trimStart s)

/-! ## Lines -/

def isLineEnd (c : Char) : Bool :=
  let n := c.toNat
  (10 ≤ n && n ≤ 13) || (28 ≤ n && n ≤ 30) || n == 0x85 || n == 0x2028 || n == 0x2029

/-- The lines of a text without their ends. An end at the very end of the text opens no new line,
so the empty text has no lines. -/
def lines : List Char → List (List Char)
  | [] => []
  | '\r' :: '\n' :: rest => [] :: lines rest
  | c :: rest =>
    if isLineEnd c then [] :: lines rest
    else match lines rest with
      | [] => [[c]]
      | line :: others => (c :: line) :: others

def splitAt (separator : Char) : List Char → List (List Char)
  | [] => [[]]
  | c :: rest =>
    if c = separator then [] :: splitAt separator rest
    else match splitAt separator rest with
      | [] => [[c]]
      | piece :: others => (c :: piece) :: others

def universalNewlines : List Char → List Char
  | [] => []
  | '\r' :: '\n' :: rest => '\n' :: universalNewlines rest
  | c :: rest => (if c = '\r' then '\n' else c) :: universalNewlines rest

/-! ## Control sequences -/

def isParameter (c : Char) : Bool := c = ';' || c = '?' || c.isDigit

def sequenceLength? : List Char → Option Nat
  | '[' :: rest =>
    let count := (rest.takeWhile isParameter).length
    match rest.drop count with
    | c :: _ => if c.isAlpha then some (count + 2) else none
    | [] => none
  | _ => none

def withoutSequencesFrom (skip : Nat) : List Char → List Char
  | [] => []
  | c :: rest =>
    match skip with
    | k + 1 => withoutSequencesFrom k rest
    | 0 =>
      match if c = '\x1b' then sequenceLength? rest else none with
      | some length => withoutSequencesFrom length rest
      | none => c :: withoutSequencesFrom 0 rest

def withoutSequences (s : String) : String := String.ofList (withoutSequencesFrom 0 s.toList)

end PluginKit.Text
