/-!
Surrogates that stand alone. They are no characters, but escapes in a text can name them. A text holds such
a surrogate as two characters: a mark, which is a code point set aside for programs' own use, and a character
that stands in for the surrogate. The mark itself is held in the same way, so a mark always has a stand-in
after it, and every other character stands for itself.
-/

namespace PluginKit.Text

def isSurrogate (n : Nat) : Bool := 0xd800 ≤ n && n < 0xe000

def standInMark : Char := Char.ofNat 0x9fffe

def standInShift : Nat := 0x100000

def charsOfCode (n : Nat) : List Char :=
  if isSurrogate n then [standInMark, Char.ofNat (standInShift + n)]
  else if n = standInMark.toNat then [standInMark, Char.ofNat (standInShift + 0xfffe)]
  else [Char.ofNat n]

def standsFor (c : Char) : Nat :=
  if isSurrogate (c.toNat - standInShift) then c.toNat - standInShift else standInMark.toNat

def pieces : List Char → List (List Char)
  | [] => []
  | [c] => [[c]]
  | c :: d :: rest => if c = standInMark then [c, d] :: pieces rest else [c] :: pieces (d :: rest)

def codeOfPiece : List Char → Nat
  | [c] => c.toNat
  | _ :: c :: _ => standsFor c
  | [] => 0

def codes (s : List Char) : List Nat := (pieces s).map codeOfPiece

def size (s : List Char) : Nat := (s.filter (· ≠ standInMark)).length

def takeCodes (n : Nat) (s : List Char) : List Char := ((pieces s).take n).flatten

def held (s : String) : String :=
  if s.contains standInMark then String.ofList (s.toList.flatMap fun c => charsOfCode c.toNat) else s

def pairCode (high low : Nat) : Nat := 0x10000 + (high - 0xd800) * 0x400 + (low - 0xdc00)

end PluginKit.Text
