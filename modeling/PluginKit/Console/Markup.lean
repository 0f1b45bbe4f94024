import PluginKit.Console.Handler
import PluginKit.Console.Style
import PluginKit.Text.Emoji

/-!
Styled texts: a tag in brackets opens a style, a tag with a slash closes one, and a backslash before
a bracket takes the tag for what it is. Only the plain text is kept here, but tags still have to match.
-/

namespace PluginKit.Markup

inductive Piece where
  | text (s : List Char)
  | tag (content : List Char) (position : Nat)
  deriving DecidableEq

def startsTag (c : Char) : Bool := ('a' ≤ c && c ≤ 'z') || c = '#' || c = '/' || c = '@'

def readTag? (s : List Char) : Option (List Char × List Char) :=
  let content := s.takeWhile fun c => c ≠ ']' && c ≠ '['
  match content, s.drop content.length with
  | c :: _, ']' :: rest => if startsTag c then some (content, rest) else none
  | _, _ => none

/-- Cuts a text into tags and what is between them; `between` was met since the last tag, and is kept
backwards. Backslashes before a tag count in pairs; one that is left over makes the tag a text. One before
any other bracket is dropped. -/
def piecesWithin : Nat → Nat → List Char → List Char → List Piece
  | 0, _, between, _ => [.text between.reverse]
  | steps + 1, position, between, s =>
    let slashes := s.takeWhile (· = '\\')
    let k := slashes.length
    match s.drop k with
    | [] => [.text (between.reverse ++ slashes)]
    | '[' :: inner => match readTag? inner with
      | some (content, rest) =>
        let tag := if k % 2 = 1 then .text ('[' :: content ++ [']']) else .tag content (position + k)
        .text between.reverse :: .text (slashes.take (k / 2)) :: tag ::
          piecesWithin steps (position + k + Text.size content + 2) [] rest
      | none => piecesWithin steps (position + k + 1) ('[' :: slashes.drop 1 ++ between) inner
    | c :: rest => piecesWithin steps (position + k + Text.size [c]) (c :: slashes ++ between) rest

-- Every step but the last takes a character at least.
def pieces (s : List Char) : List Piece := piecesWithin (s.length + 1) 0 [] s

inductive Fault where
  | unmatched (content : List Char) (position : Nat)
  | nothingOpen (position : Nat)
  | handler (fault : Handler.Fault)
  | number (fault : Whole.Fault)
  deriving DecidableEq

def Fault.message : Fault → String
  | .unmatched content position =>
    "closing tag '[" ++ String.ofList content ++ "]' at position " ++ toString position ++
      " doesn't match any open tag"
  | .nothingOpen position =>
    "closing tag '[/]' at position " ++ toString position ++ " has nothing to close"
  | .handler fault => fault.message
  | .number fault => fault.message

/-! ## Tags -/

structure Tag where
  name : List Char
  parameters : Option (List Char)
  deriving DecidableEq

def Tag.ofContent (content : List Char) : Tag :=
  match content.dropWhile (· ≠ '=') with
  | _ :: parameters => ⟨content.takeWhile (· ≠ '='), some parameters⟩
  | [] => ⟨content, none⟩

def styleName (s : List Char) : Except Fault (List Char) :=
  match Style.parse s with
  | .ok style => .ok style.text.toList
  | .error fault => match fault.unreadable? with
    | some number => .error (.number number)
    | none => .ok (Text.lower (Text.trim s))

def close? (name : List Char) : List Tag → Option (Tag × List Tag)
  | [] => none
  | inner :: outer =>
    if inner.name = name then some (inner, outer)
    else (close? name outer).map fun (found, left) => (found, inner :: left)

def checkClosed (tag : Tag) : Except Fault Unit :=
  if tag.name.head? = some '@' then
    match Handler.fault? (tag.parameters.getD []) with
    | some fault => .error (.handler fault)
    | none => .ok ()
  else .ok ()

def step (content : List Char) (position : Nat) (opened : List Tag) : Except Fault (List Tag) := do
  let tag := Tag.ofContent content
  match tag.name with
  | '/' :: closing =>
    let (closed, left) ←
      if (Text.trim closing).isEmpty then
        match opened with
        | [] => throw (.nothingOpen position)
        | inner :: outer => pure (inner, outer)
      else match close? (← styleName closing) opened with
        | some found => pure found
        | none => throw (.unmatched content position)
    checkClosed closed
    return left
  | name => return { tag with name := ← styleName name } :: opened

/-! ## Plain texts -/

def plainOf : List Tag → List Piece → Except Fault (List Char)
  | _, [] => .ok []
  | opened, .text s :: rest => do return Text.withEmojis s ++ (← plainOf opened rest)
  | opened, .tag content position :: rest => do plainOf (← step content position opened) rest

def isControl (c : Char) : Bool :=
  let n := c.toNat
  n == 7 || n == 8 || n == 11 || n == 12 || n == 13

def withoutControls (s : List Char) : List Char := s.filter fun c => !isControl c

def plain (s : List Char) : Except Fault (List Char) :=
  (plainOf [] (pieces s)).map withoutControls

end PluginKit.Markup
