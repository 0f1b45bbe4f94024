import PluginKit.Text.Digit
import PluginKit.Text.Stream
import PluginKit.Text.Surrogate
import PluginKit.Yaml.Error

/-!
Tokens of configuration files in YAML 1.1. Indentation turns into tokens that open and close blocks. A
plain word is known to be a key only when the colon after it is seen, so the scan remembers where a
key could have started and puts the tokens of the key there afterwards.
-/

namespace PluginKit.Yaml

inductive Directive where
  | version (major minor : Int)
  | handle (name start : String)
  | other
  deriving DecidableEq

inductive Token where
  | directive (d : Directive)
  | documentStart
  | documentEnd
  | streamEnd
  | blockSequenceStart
  | blockMappingStart
  | blockEnd
  | flowSequenceStart
  | flowSequenceEnd
  | flowMappingStart
  | flowMappingEnd
  | blockEntry
  | flowEntry
  | key
  | value
  | reference (name : String)
  | anchor (name : String)
  | tag (handle : Option String) (suffix : String)
  | scalar (text : String) (plain : Bool)
  deriving DecidableEq

/-! ## Characters -/

def nul : Char := '\x00'

def isBreak (c : Char) : Bool :=
  c = '\r' || c = '\n' || c = '\x85' || c.toNat = 0x2028 || c.toNat = 0x2029

def isBreakOrEnd (c : Char) : Bool := c = nul || isBreak c

def isGap (c : Char) : Bool := c = ' ' || c = '\t' || isBreakOrEnd c

def isAllowed (c : Char) : Bool :=
  let n := c.toNat
  n == 9 || n == 10 || n == 13 || (0x20 ≤ n && n ≤ 0x7e) || n == 0x85 ||
    (0xa0 ≤ n && n ≤ 0xfffd) || 0x10000 ≤ n

/-! ## Places in the text -/

structure Cursor where
  rest : List Char
  left : Nat
  line : Nat
  column : Nat

namespace Cursor

def peekAt (c : Cursor) (k : Nat) : Char := (c.rest[k]?).getD nul

def peek (c : Cursor) : Char := c.peekAt 0

def next (c : Cursor) : Cursor :=
  match c.rest with
  | [] => c
  | d :: rest =>
    let ends := isBreak d && !(d = '\r' && rest.head? = some '\n')
    if ends then ⟨rest, c.left - 1, c.line + 1, 0⟩
    else ⟨rest, c.left - 1, c.line, if d.toNat = 0xfeff then c.column else c.column + 1⟩

def forward (c : Cursor) : Nat → Cursor
  | 0 => c
  | n + 1 => c.next.forward n

def span (c : Cursor) (p : Char → Bool) : List Char × Cursor :=
  let run := c.rest.takeWhile p
  (run, c.forward run.length)

def skip (c : Cursor) (p : Char → Bool) : Cursor := (c.span p).2

def lineBreak (c : Cursor) : List Char × Cursor :=
  match c.rest with
  | '\r' :: '\n' :: _ => (['\n'], c.forward 2)
  | d :: _ =>
    if d.toNat = 0x2028 || d.toNat = 0x2029 then ([d], c.next)
    else if isBreak d then (['\n'], c.next)
    else ([], c)
  | [] => ([], c)

def atSeparator (c : Cursor) : Bool :=
  (c.rest.take 3 = ['-', '-', '-'] || c.rest.take 3 = ['.', '.', '.']) && isGap (c.peekAt 3)

end Cursor

/-! ## Quoted texts -/

def simpleEscapes : List (Char × Char) :=
  [('0', '\x00'), ('a', '\x07'), ('b', '\x08'), ('t', '\t'), ('\t', '\t'), ('n', '\n'),
    ('v', '\x0b'), ('f', '\x0c'), ('r', '\r'), ('e', '\x1b'), (' ', ' '), ('\x22', '\x22'),
    ('\\', '\\'), ('/', '/'), ('N', '\x85'), ('_', '\xa0'), ('L', Char.ofNat 0x2028),
    ('P', Char.ofNat 0x2029)]

def escapeLength? : Char → Option Nat
  | 'x' => some 2
  | 'u' => some 4
  | 'U' => some 8
  | _ => none

def hexNumber? (digits : List Char) : Option Nat :=
  digits.foldlM (fun n d => (Text.hexValue? d).map (16 * n + ·)) 0

def quotedBreaks : Nat → Cursor → Option (List Char × Cursor)
  | 0, _ => none
  | steps + 1, c =>
    if c.atSeparator then none
    else
      let here := c.skip fun d => d = ' ' || d = '\t'
      if isBreak here.peek then do
        let (one, after) := here.lineBreak
        let (more, last) ← quotedBreaks steps after
        return (one ++ more, last)
      else some ([], here)

def foldedBreak (steps : Nat) (c : Cursor) : Option (List Char × Cursor) := do
  let (one, after) := c.lineBreak
  let (more, last) ← quotedBreaks steps after
  if one ≠ ['\n'] then return (one ++ more, last)
  else if more.isEmpty then return ([' '], last)
  else return (more, last)

def charsOf (n : Nat) : Reading (List Char) :=
  if n < 0x110000 then .ok (Text.charsOfCode n) else .error (.codePoint n)

def scanQuoted (double : Bool) : Nat → Cursor → Reading (List Char × Cursor)
  | 0, _ => malformed
  | steps + 1, c =>
    let continue_ := fun (text : List Char) (after : Cursor) =>
      (scanQuoted double steps after).map fun (more, last) => (text ++ more, last)
    let d := c.peek
    if d = nul then malformed
    else if double && d = '\x22' then .ok ([], c.next)
    else if !double && d = '\x27' then
      if c.peekAt 1 = '\x27' then continue_ ['\x27'] (c.forward 2) else .ok ([], c.next)
    else if double && d = '\\' then
      let e := c.peekAt 1
      match simpleEscapes.find? fun pair => pair.1 = e with
      | some pair => continue_ [pair.2] (c.forward 2)
      | none => match escapeLength? e with
        | some length => do
          let digits := (c.rest.drop 2).take length
          if digits.length ≠ length then malformed
          let n ← orMalformed (hexNumber? digits)
          continue_ (← charsOf n) (c.forward (2 + length))
        | none =>
          if isBreak e then do
            let (_, after) := c.next.lineBreak
            let (more, last) ← orMalformed (quotedBreaks steps after)
            continue_ more last
          else malformed
    else if d = ' ' || d = '\t' then
      let (blanks, after) := c.span fun e => e = ' ' || e = '\t'
      if after.peek = nul then malformed
      else if isBreak after.peek then do
        let (text, last) ← orMalformed (foldedBreak steps after)
        continue_ text last
      else continue_ blanks after
    else if isBreak d then do
      let (text, last) ← orMalformed (foldedBreak steps c)
      continue_ text last
    else continue_ [d] c.next

/-! ## Block texts -/

inductive Chomp where
  | clip
  | strip
  | keep
  deriving DecidableEq

def chompOf? : Char → Option Chomp
  | '+' => some .keep
  | '-' => some .strip
  | _ => none

def incrementOf? (c : Char) : Option Nat :=
  if '1' ≤ c && c ≤ '9' then some (c.toNat - 48) else none

def blockHeader (c : Cursor) : Option (Chomp × Option Nat × Cursor) :=
  let found : Chomp × Option Nat × Cursor :=
    match chompOf? c.peek, incrementOf? c.peek with
    | some chomp, _ => match incrementOf? (c.peekAt 1) with
      | some n => (chomp, some n, c.forward 2)
      | none => (chomp, none, c.next)
    | none, some n => match chompOf? (c.peekAt 1) with
      | some chomp => (chomp, some n, c.forward 2)
      | none => (.clip, some n, c.next)
    | none, none => (.clip, none, c)
  let d := found.2.2.peek
  if d = ' ' || isBreakOrEnd d then some found else none

def ignoredLine (c : Cursor) : Option Cursor :=
  let here := c.skip (· = ' ')
  let after := if here.peek = '#' then here.skip fun d => !isBreakOrEnd d else here
  if isBreakOrEnd after.peek then some after.lineBreak.2 else none

def blockIndentation : Nat → Nat → Cursor → List Char × Nat × Cursor
  | 0, deepest, c => ([], deepest, c)
  | steps + 1, deepest, c =>
    if c.peek = ' ' then blockIndentation steps (max deepest c.next.column) c.next
    else if isBreak c.peek then
      let (one, after) := c.lineBreak
      let (more, found, last) := blockIndentation steps deepest after
      (one ++ more, found, last)
    else ([], deepest, c)

def skipToColumn (column : Nat) : Nat → Cursor → Cursor
  | 0, c => c
  | steps + 1, c =>
    if c.column < column && c.peek = ' ' then skipToColumn column steps c.next else c

def blockBreaks (indent : Nat) : Nat → Cursor → List Char × Cursor
  | 0, c => ([], c)
  | steps + 1, c =>
    let here := skipToColumn indent indent c
    if isBreak here.peek then
      let (one, after) := here.lineBreak
      let (more, last) := blockBreaks indent steps after
      (one ++ more, last)
    else ([], here)

def blockLines (folded : Bool) (indent : Nat) :
    Nat → List Char → Cursor → List Char × List Char × List Char × Cursor
  | 0, breaks, c => ([], [], breaks, c)
  | steps + 1, breaks, c =>
    if c.column = indent && c.peek ≠ nul then
      let plainStart := c.peek ≠ ' ' && c.peek ≠ '\t'
      let (line, afterLine) := c.span fun d => !isBreakOrEnd d
      let (lineEnd, afterEnd) := afterLine.lineBreak
      let (more, here) := blockBreaks indent steps afterEnd
      if here.column = indent && here.peek ≠ nul then
        let joint :=
          if folded && lineEnd = ['\n'] && plainStart && here.peek ≠ ' ' && here.peek ≠ '\t' then
            if more.isEmpty then [' '] else []
          else lineEnd
        let (text, last, tail, done) := blockLines folded indent steps more here
        (breaks ++ line ++ joint ++ text, last, tail, done)
      else (breaks ++ line, lineEnd, more, here)
    else ([], [], breaks, c)

def scanBlock (folded : Bool) (outer : Int) (c : Cursor) : Option (List Char × Cursor) := do
  let steps := c.left + 1
  let (chomp, increment, afterHeader) ← blockHeader c
  let start ← ignoredLine afterHeader
  let least := (max (outer + 1) 1).toNat
  let (breaks, indent, here) := match increment with
    | none =>
      let (breaks, deepest, here) := blockIndentation steps 0 start
      (breaks, max least deepest, here)
    | some n =>
      let indent := least + n - 1
      let (breaks, here) := blockBreaks indent steps start
      (breaks, indent, here)
  let (text, lineEnd, tail, done) := blockLines folded indent steps breaks here
  let ending := match chomp with
    | .strip => []
    | .clip => lineEnd
    | .keep => lineEnd ++ tail
  return (text ++ ending, done)

/-! ## Plain words -/

def isFlowMark (c : Char) : Bool := c = ',' || c = '[' || c = ']' || c = '\x7b' || c = '\x7d'

def plainLength (flow : Bool) : List Char → Nat
  | [] => 0
  | c :: rest =>
    let follows := rest.head?.getD nul
    if isGap c || (c = ':' && (isGap follows || (flow && isFlowMark follows))) ||
        (flow && (isFlowMark c || c = '?')) then 0
    else plainLength flow rest + 1

def plainBreaks : Nat → Cursor → Option (List Char) × Cursor
  | 0, c => (none, c)
  | steps + 1, c =>
    if c.peek = ' ' then plainBreaks steps c.next
    else if isBreak c.peek then
      let (one, after) := c.lineBreak
      if after.atSeparator then (none, after)
      else
        let (more, last) := plainBreaks steps after
        (more.map (one ++ ·), last)
    else (some [], c)

def plainSpaces (steps : Nat) (c : Cursor) : List Char × Bool × Cursor :=
  let (blanks, after) := c.span (· = ' ')
  if isBreak after.peek then
    let (one, next) := after.lineBreak
    if next.atSeparator then ([], true, next)
    else match plainBreaks steps next with
      | (none, last) => ([], true, last)
      | (some more, last) =>
        if one ≠ ['\n'] then (one ++ more, true, last)
        else if more.isEmpty then ([' '], true, last)
        else (more, true, last)
  else (blanks, false, after)

def scanPlain (flow : Bool) (indent : Int) : Nat → List Char → Bool → Cursor →
    List Char × Bool × Cursor
  | 0, _, ended, c => ([], ended, c)
  | steps + 1, spaces, ended, c =>
    if c.peek = '#' then ([], ended, c)
    else
      let length := plainLength flow c.rest
      if length = 0 then ([], ended, c)
      else
        let word := c.rest.take length
        let (between, lineEnded, after) := plainSpaces (c.left + 1) (c.forward length)
        if between.isEmpty || after.peek = '#' || (!flow && (after.column : Int) < indent + 1) then
          (spaces ++ word, lineEnded, after)
        else
          let (more, last, done) := scanPlain flow indent steps between lineEnded after
          (spaces ++ word ++ more, last, done)

/-! ## Names and tags -/

def isNameChar (c : Char) : Bool :=
  ('0' ≤ c && c ≤ '9') || ('A' ≤ c && c ≤ 'Z') || ('a' ≤ c && c ≤ 'z') || c = '-' || c = '_'

def scanName (c : Cursor) : Option (String × Cursor) :=
  let (name, after) := c.span isNameChar
  let d := after.peek
  let closes := isGap d || "?:,]\x7d%@`".toList.contains d
  if name.isEmpty || !closes then none else some (String.ofList name, after)

def isUriChar (c : Char) : Bool := isNameChar c || ";/?:@&=+$,.!~*'()[]%".toList.contains c

def escapedBytes : List Char → Option (List UInt8 × List Char)
  | '%' :: a :: b :: rest => do
    let high ← Text.hexValue? a
    let low ← Text.hexValue? b
    let (more, last) ← escapedBytes rest
    return (UInt8.ofNat (16 * high + low) :: more, last)
  | '%' :: _ => none
  | s => some ([], s)

def unescapedWithin : Nat → List Char → Option (List Char)
  | 0, _ => none
  | _ + 1, [] => some []
  | steps + 1, c :: rest =>
    if c = '%' then do
      let (data, after) ← escapedBytes (c :: rest)
      match Utf8.decode data with
      | .ok text => return text.toList ++ (← unescapedWithin steps after)
      | .error _ => none
    else do return c :: (← unescapedWithin steps rest)

def scanUri (c : Cursor) : Option (String × Cursor) := do
  let (uri, after) := c.span isUriChar
  if uri.isEmpty then none
  return (String.ofList (← unescapedWithin (uri.length + 1) uri), after)

def scanHandle (c : Cursor) : Option (String × Cursor) :=
  if c.peek ≠ '!' then none
  else if c.peekAt 1 = ' ' then some ("!", c.next)
  else
    let (name, after) := c.next.span isNameChar
    if after.peek = '!' then some (String.ofList ('!' :: name ++ ['!']), after.next) else none

def atWordEnd (c : Cursor) : Bool := c.peek = ' ' || isBreakOrEnd c.peek

def scanTag (c : Cursor) : Option (Token × Cursor) := do
  let d := c.peekAt 1
  let (token, after) ← show Option (Token × Cursor) from
    if d = '<' then do
      let (uri, after) ← scanUri (c.forward 2)
      if after.peek ≠ '>' then none
      return (.tag none uri, after.next)
    else if isGap d then some (.tag none "!", c.next)
    else do
      let word := c.next.rest.takeWhile fun e => !(e = ' ' || isBreakOrEnd e)
      let (handle, afterHandle) ← if word.contains '!' then scanHandle c else some ("!", c.next)
      let (uri, after) ← scanUri afterHandle
      return (.tag (some handle) uri, after)
  if atWordEnd after then some (token, after) else none

/-! ## Directives -/

def skipBlanks (c : Cursor) : Cursor := c.skip (· = ' ')

def scanVersionPart (c : Cursor) : Reading (Int × Cursor) :=
  let (digits, after) := c.span fun d => '0' ≤ d && d ≤ '9'
  if digits.isEmpty then malformed
  else match Whole.parse 10 (String.ofList digits) with
    | .ok n => .ok (n, after)
    | .error fault => .error (.whole fault)

def scanVersion (c : Cursor) : Reading (Directive × Cursor) := do
  let (major, afterMajor) ← scanVersionPart (skipBlanks c)
  if afterMajor.peek ≠ '.' then malformed
  let (minor, after) ← scanVersionPart afterMajor.next
  if !atWordEnd after then malformed
  return (.version major minor, after)

def scanHandleLine (c : Cursor) : Option (Directive × Cursor) := do
  let (handle, afterHandle) ← scanHandle (skipBlanks c)
  if afterHandle.peek ≠ ' ' then none
  let (start, after) ← scanUri (skipBlanks afterHandle)
  if !atWordEnd after then none
  return (.handle handle start, after)

def scanDirective (c : Cursor) : Reading (Directive × Cursor) := do
  let (name, afterName) := c.span isNameChar
  if name.isEmpty || !atWordEnd afterName then malformed
  let (directive, after) ← match String.ofList name with
    | "YAML" => scanVersion afterName
    | "TAG" => orMalformed (scanHandleLine afterName)
    | _ => pure (.other, afterName.skip fun d => !isBreakOrEnd d)
  return (directive, ← orMalformed (ignoredLine after))

/-! ## The scan -/

structure KeyStart where
  token : Nat
  required : Bool
  left : Nat
  line : Nat
  column : Nat

/-- Where a scan is: the tokens so far, the last one first, and how many they are; how deep it is in brackets
and in blocks; whether a key may start here, and where keys may have started on each level of brackets. -/
structure Scan where
  cursor : Cursor
  tokens : List Token
  count : Nat
  flowLevel : Nat
  indent : Int
  outer : List Int
  keyAllowed : Bool
  keys : List (Nat × KeyStart)
  done : Bool

namespace Scan

def start (text : List Char) : Scan :=
  ⟨⟨text, text.length, 0, 0⟩, [], 0, 0, -1, [], true, [], false⟩

def push (s : Scan) (t : Token) : Scan :=
  { s with tokens := t :: s.tokens, count := s.count + 1 }

def insert (s : Scan) (index : Nat) (t : Token) : Scan :=
  { s with tokens := s.tokens.insertIdx (s.count - index) t, count := s.count + 1 }

def toNextToken : Nat → Scan → Scan
  | 0, s => s
  | steps + 1, s =>
    let blank := s.cursor.skip (· = ' ')
    let here := if blank.peek = '#' then blank.skip fun d => !isBreakOrEnd d else blank
    if isBreak here.peek then
      toNextToken steps { s with
        cursor := here.lineBreak.2
        keyAllowed := s.keyAllowed || s.flowLevel = 0 }
    else { s with cursor := here }

def isStale (s : Scan) (k : KeyStart) : Bool :=
  k.line ≠ s.cursor.line || 1024 < k.left - s.cursor.left

def dropStale (s : Scan) : Reading Scan :=
  if s.keys.any fun (_, k) => s.isStale k && k.required then malformed
  else .ok { s with keys := s.keys.filter fun (_, k) => !s.isStale k }

def keyHere? (s : Scan) : Option KeyStart :=
  (s.keys.find? fun (level, _) => level = s.flowLevel).map Prod.snd

def withoutKey (s : Scan) : Scan :=
  { s with keys := s.keys.filter fun (level, _) => level ≠ s.flowLevel }

def dropKey (s : Scan) : Reading Scan :=
  match s.keyHere? with
  | some k => if k.required then malformed else .ok s.withoutKey
  | none => .ok s

def noteKey (s : Scan) : Reading Scan :=
  if s.keyAllowed then do
    let t ← s.dropKey
    let required := s.flowLevel = 0 && s.indent = s.cursor.column
    let k : KeyStart :=
      ⟨s.count, required, s.cursor.left, s.cursor.line, s.cursor.column⟩
    return { t with keys := (s.flowLevel, k) :: t.keys }
  else .ok s

def unwind (column : Int) : Nat → Scan → Scan
  | 0, s => s
  | steps + 1, s =>
    if s.flowLevel = 0 && column < s.indent then
      match s.outer with
      | [] => s
      | indent :: outer =>
        unwind column steps ({ s with indent := indent, outer := outer }.push .blockEnd)
    else s

def unwindTo (s : Scan) (column : Int) : Scan := s.unwind column (s.outer.length + 1)

def deepen (s : Scan) (column : Nat) : Bool × Scan :=
  if s.indent < column then
    (true, { s with indent := column, outer := s.indent :: s.outer })
  else (false, s)

def allow (s : Scan) (allowed : Bool) : Scan := { s with keyAllowed := allowed }

def move (s : Scan) (n : Nat) : Scan := { s with cursor := s.cursor.forward n }

def take (s : Scan) (t : Token) : Scan := (s.move 1).push t

def flowStart (t : Token) (s : Scan) : Reading Scan := do
  let noted ← s.noteKey
  return ({ noted with flowLevel := noted.flowLevel + 1 }.allow true).take t

def flowEnd (t : Token) (s : Scan) : Reading Scan := do
  let dropped ← s.dropKey
  match dropped.flowLevel with
  | 0 => malformed
  | level + 1 => return ({ dropped with flowLevel := level }.allow false).take t

def blockEntry (s : Scan) : Reading Scan := do
  let opened ← show Reading Scan from
    if s.flowLevel ≠ 0 then .ok s
    else if !s.keyAllowed then malformed
    else
      let (opens, t) := s.deepen s.cursor.column
      .ok (if opens then t.push .blockSequenceStart else t)
  return (← (opened.allow true).dropKey).take .blockEntry

def explicitKey (s : Scan) : Reading Scan := do
  let opened ← show Reading Scan from
    if s.flowLevel ≠ 0 then .ok s
    else if !s.keyAllowed then malformed
    else
      let (opens, t) := s.deepen s.cursor.column
      .ok (if opens then t.push .blockMappingStart else t)
  return (← (opened.allow (s.flowLevel = 0)).dropKey).take .key

def valueMark (s : Scan) : Reading Scan :=
  match s.keyHere? with
  | some k =>
    let (opens, t) := if s.flowLevel = 0 then s.withoutKey.deepen k.column else (false, s.withoutKey)
    let keyed := t.insert k.token .key
    let opened := if opens then keyed.insert k.token .blockMappingStart else keyed
    .ok ((opened.allow false).take .value)
  | none =>
    if s.flowLevel = 0 && !s.keyAllowed then malformed
    else do
      let (opens, t) := if s.flowLevel = 0 then s.deepen s.cursor.column else (false, s)
      let opened := if opens then t.push .blockMappingStart else t
      return (← (opened.allow (s.flowLevel = 0)).dropKey).take .value

def keyLike (s : Scan) (found : Reading (Token × Cursor)) : Reading Scan := do
  let noted ← s.noteKey
  let (t, after) ← found
  return ({ noted with cursor := after }.allow false).push t

def plain (s : Scan) : Reading Scan := do
  let noted ← s.noteKey
  let steps := s.cursor.left + 1
  let (text, ended, after) := scanPlain (s.flowLevel ≠ 0) s.indent steps [] false s.cursor
  return ({ noted with cursor := after }.allow ended).push (.scalar (String.ofList text) true)

def block (folded : Bool) (s : Scan) : Reading Scan := do
  let dropped ← (s.allow true).dropKey
  let (text, after) ← orMalformed (scanBlock folded s.indent s.cursor.next)
  return { dropped with cursor := after }.push (.scalar (String.ofList text) false)

def directive (s : Scan) : Reading Scan := do
  let dropped ← (s.unwindTo (-1)).dropKey
  let (directive, after) ← scanDirective s.cursor.next
  return ({ dropped with cursor := after }.allow false).push (.directive directive)

def separator (t : Token) (s : Scan) : Reading Scan := do
  let dropped ← (s.unwindTo (-1)).dropKey
  return ((dropped.allow false).move 3).push t

def finish (s : Scan) : Reading Scan := do
  let dropped ← (s.unwindTo (-1)).dropKey
  return { (dropped.allow false).push .streamEnd with keys := [], done := true }

def startsPlain (s : Scan) : Bool :=
  let c := s.cursor.peek
  let marks := "-?:,[]\x7b\x7d#&*!|>'\"%@`".toList
  (!isGap c && !marks.contains c) ||
    (!isGap (s.cursor.peekAt 1) && (c = '-' || (s.flowLevel = 0 && (c = '?' || c = ':'))))

def quoted (double : Bool) (s : Scan) : Reading (Token × Cursor) :=
  (scanQuoted double (s.cursor.left + 1) s.cursor.next).map fun (text, after) =>
    (.scalar (String.ofList text) false, after)

def named (token : String → Token) (s : Scan) : Reading (Token × Cursor) :=
  orMalformed ((scanName s.cursor.next).map fun (name, after) => (token name, after))

def step (s : Scan) : Reading Scan := do
  let s ← (s.toNextToken (s.cursor.left + 1)).dropStale
  let s := s.unwindTo s.cursor.column
  let c := s.cursor.peek
  let gapNext := isGap (s.cursor.peekAt 1)
  let flow := s.flowLevel ≠ 0
  let separates := s.cursor.column = 0 && s.cursor.atSeparator
  if c = nul then s.finish
  else if c = '%' && s.cursor.column = 0 then s.directive
  else if c = '-' && separates then s.separator .documentStart
  else if c = '.' && separates then s.separator .documentEnd
  else if c = '[' then s.flowStart .flowSequenceStart
  else if c = '\x7b' then s.flowStart .flowMappingStart
  else if c = ']' then s.flowEnd .flowSequenceEnd
  else if c = '\x7d' then s.flowEnd .flowMappingEnd
  else if c = ',' then return (← (s.allow true).dropKey).take .flowEntry
  else if c = '-' && gapNext then s.blockEntry
  else if c = '?' && (flow || gapNext) then s.explicitKey
  else if c = ':' && (flow || gapNext) then s.valueMark
  else if c = '*' then s.keyLike (s.named .reference)
  else if c = '&' then s.keyLike (s.named .anchor)
  else if c = '!' then s.keyLike (orMalformed (scanTag s.cursor))
  else if c = '|' && !flow then s.block false
  else if c = '>' && !flow then s.block true
  else if c = '\x27' then s.keyLike (s.quoted false)
  else if c = '\x22' then s.keyLike (s.quoted true)
  else if s.startsPlain then s.plain
  else malformed

def settled (s : Scan) : List Token :=
  let open_ := s.keys.filter fun (_, k) => !s.isStale k
  (s.tokens.drop (s.count - (open_.map fun (_, k) => k.token).foldl min s.count)).reverse

def failsAnyway (s : Scan) : Bool :=
  let closed := { s.cursor with rest := s.cursor.rest ++ ['\x22', '\x27'], left := s.cursor.left + 2 }
  match { s with cursor := closed }.step with
  | .ok _ => false
  | .error _ => true

/-- All tokens, or those before the place where the scan fails, and why it does. If what follows the text
cannot be read, `missing` tells why, and the scan fails as soon as it needs that. -/
def run (missing : Option Error) : Nat → Scan → List Token × Option Error
  | 0, s => (s.settled, some .malformed)
  | steps + 1, s =>
    if s.done then (s.tokens.reverse, none)
    else match s.step, missing with
      | .ok next, none => run missing steps next
      | .ok next, some e =>
        if next.cursor.rest.isEmpty then (s.settled, some e) else run missing steps next
      | .error e, none => (s.settled, some e)
      | .error e, some late => (s.settled, some (if s.failsAnyway then e else late))

end Scan

def headStart : Nat := 2 * Text.pieceSize

def readable (stream : Text.Stream) : List Char × Option Error :=
  let good := (stream.text.takeWhile isAllowed).length
  if good = stream.text.length || (stream.fault.isSome && stream.text.length < headStart) then
    (stream.text, stream.fault.map .undecodable)
  else (stream.text.take (good / Text.pieceSize * Text.pieceSize), some .malformed)

def scan (stream : Text.Stream) : List Token × Option Error :=
  let (text, missing) := readable stream
  let body := if text.head?.map Char.toNat = some 0xfeff then text.drop 1 else text
  if missing.isSome && text.length < headStart then ([], missing)
  else (Scan.start body).run missing (body.length + 2)

end PluginKit.Yaml
