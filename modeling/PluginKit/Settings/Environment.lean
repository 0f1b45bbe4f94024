import PluginKit.Text.Lines
import PluginKit.Text.Lower

/-!
Environment variables, and files that hold assignments to them. Names of variables are compared
without regard to case.
-/

namespace PluginKit

abbrev Environment := List (String × String)

namespace Environment

def lowerName (s : String) : String := String.ofList (Text.lower s.toList)

def sameName (a b : String) : Bool := lowerName a == lowerName b

def get? (env : Environment) (name : String) : Option String :=
  (List.find? (fun entry => sameName entry.1 name) (List.reverse env)).map Prod.snd

def named? (env : Environment) (name : String) : Option String :=
  (List.find? (fun entry => entry.1 == name) (List.reverse env)).map Prod.snd

end Environment

/-! ## Files of assignments -/

namespace DotEnv

abbrev Binding := String × Option String

def isSideSpace (c : Char) : Bool := Text.isBlank c && c != '\n' && c != '\r'

def skipSide (s : List Char) : List Char := s.dropWhile isSideSpace

def isLineBreak (c : Char) : Bool := c = '\n' || c = '\r'

def afterBreak : List Char → List Char
  | '\r' :: '\n' :: rest => rest
  | _ :: rest => rest
  | [] => []

def skipLine (s : List Char) : List Char := afterBreak (s.dropWhile fun c => !isLineBreak c)

def withoutExport (s : List Char) : List Char :=
  let word := "export".toList
  match word.isPrefixOf s, s.drop word.length with
  | true, c :: rest => if isSideSpace c then skipSide (c :: rest) else s
  | _, _ => s

def spanToMark (mark : Char) (before : List Char) : List Char → Option (List Char × List Char)
  | [] => none
  | c :: rest =>
    if c = mark && before.head? ≠ some '\\' then some (before.reverse, rest)
    else spanToMark mark (c :: before) rest

def spanToLast (mark : Char) (s : List Char) : Option (List Char × List Char) :=
  match s.reverse.dropWhile (· ≠ mark) with
  | _ :: inside => some (inside.reverse, s.drop (inside.length + 1))
  | [] => none

/-- A quoted run up to its closing mark, and what follows it. A mark after a backslash closes only if
no other one does. -/
def spanQuoted (mark : Char) (s : List Char) : Option (List Char × List Char) :=
  spanToMark mark [] s <|> spanToLast mark s

def escapes (mark : Char) : List (Char × Char) :=
  if mark = '\x22' then
    [('\\', '\\'), ('\x27', '\x27'), ('\x22', '\x22'), ('a', '\x07'), ('b', '\x08'), ('f', '\x0c'),
      ('n', '\n'), ('r', '\r'), ('t', '\t'), ('v', '\x0b')]
  else [('\\', '\\'), ('\x27', '\x27')]

def unescape (known : List (Char × Char)) : List Char → List Char
  | [] => []
  | '\\' :: d :: rest =>
    match known.find? fun pair => pair.1 = d with
    | some pair => pair.2 :: unescape known rest
    | none => '\\' :: unescape known (d :: rest)
  | c :: rest => c :: unescape known rest

def withoutComment : List Char → List Char
  | [] => []
  | c :: rest =>
    if Text.isBlank c && (rest.dropWhile Text.isBlank).head? = some '#' then []
    else c :: withoutComment rest

def readKey? (s : List Char) : Option (Option String × List Char) :=
  match s with
  | '#' :: _ => some (none, s)
  | '\x27' :: rest =>
    let key := rest.takeWhile (· != '\x27')
    match rest.dropWhile (· != '\x27') with
    | _ :: after => if key.isEmpty then none else some (some (String.ofList key), after)
    | [] => none
  | _ =>
    let mark := fun (c : Char) => c != '=' && c != '#' && !Text.isBlank c
    let key := s.takeWhile mark
    if key.isEmpty then none else some (some (String.ofList key), s.dropWhile mark)

def readValue? (s : List Char) : Option (String × List Char) :=
  match s with
  | [] => some ("", s)
  | c :: rest =>
    if c = '\x27' || c = '\x22' then
      (spanQuoted c rest).map fun (inside, after) =>
        (String.ofList (unescape (escapes c) inside), after)
    else if isLineBreak c then some ("", s)
    else
      let line := s.takeWhile fun d => !isLineBreak d
      some (String.ofList (Text.trimEnd (withoutComment line)), s.dropWhile fun d => !isLineBreak d)

def readEnd? (s : List Char) : Option (List Char) :=
  let rest := match skipSide s with
    | '#' :: more => more.dropWhile fun c => !isLineBreak c
    | more => more
  match skipSide rest with
  | [] => some []
  | c :: more => if isLineBreak c then some (afterBreak (c :: more)) else none

def readBinding (s : List Char) : Except (List Char) (Option Binding × List Char) := do
  let start := withoutExport s
  let (key, afterKey) ← (readKey? start).elim (.error start) .ok
  let (value, afterValue) ← match skipSide afterKey with
    | '=' :: rest =>
      (readValue? (skipSide rest)).elim (.error (skipSide rest)) fun (v, after) => .ok (some v, after)
    | rest => .ok (none, rest)
  let rest ← (readEnd? afterValue).elim (.error afterValue) .ok
  return (key.map fun k => (k, value), rest)

/-- All assignments of a file; lines that are none are skipped. Every step takes at least one
character, so `steps` need not be more than there are. -/
def readWithin : Nat → List Char → List Binding
  | 0, _ => []
  | steps + 1, s =>
    match s.dropWhile Text.isBlank with
    | [] => []
    | start => match readBinding start with
      | .ok (some binding, rest) => binding :: readWithin steps rest
      | .ok (none, rest) => readWithin steps rest
      | .error rest => readWithin steps (skipLine rest)

def findVariable : List Char → Option (List Char × String × Option String × List Char)
  | [] => none
  | '$' :: '\x7b' :: rest =>
    let name := rest.takeWhile fun c => c != '\x7d' && c != ':'
    match rest.dropWhile fun c => c != '\x7d' && c != ':' with
    | '\x7d' :: after => some ([], String.ofList name, none, after)
    | ':' :: '-' :: more => match more.dropWhile (· != '\x7d') with
      | _ :: after =>
        some ([], String.ofList name, some (String.ofList (more.takeWhile (· != '\x7d'))), after)
      | [] => none
    | _ => (findVariable ('\x7b' :: rest)).map fun (before, found) => ('$' :: before, found)
  | c :: rest => (findVariable rest).map fun (before, found) => (c :: before, found)

def expandWithin (lookup : String → Option String) : Nat → List Char → List Char
  | 0, s => s
  | steps + 1, s => match findVariable s with
    | none => s
    | some (before, name, default, after) =>
      before ++ ((lookup name).getD (default.getD "")).toList ++ expandWithin lookup steps after

def expandAll (env : Environment) : List Binding → List Binding → List Binding
  | before, [] => before
  | before, (name, value) :: rest =>
    let lookup := fun (wanted : String) =>
      match before.reverse.find? fun binding => binding.1 == wanted with
      | some (_, found) => some (found.getD "")
      | none => env.named? wanted
    let expanded := value.map fun v => String.ofList (expandWithin lookup (v.length + 1) v.toList)
    expandAll env (before ++ [(name, expanded)]) rest

def put (bindings : List Binding) (binding : Binding) : List Binding :=
  if bindings.any fun old => old.1 == binding.1 then
    bindings.map fun old => if old.1 == binding.1 then binding else old
  else bindings ++ [binding]

def parse (env : Environment) (text : String) : List Binding :=
  let body := match text.toList with
    | '\uFEFF' :: rest => rest
    | all => all
  (expandAll env [] (readWithin (text.length + 1) body)).foldl put []

def get? (bindings : List Binding) (name : String) : Option String :=
  match bindings.reverse.find? fun binding => Environment.sameName binding.1 name with
  | some (_, value) => value
  | none => none

end DotEnv

end PluginKit
