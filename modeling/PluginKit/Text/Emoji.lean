import PluginKit.Text.EmojiTable
import PluginKit.Text.Lines
import PluginKit.Text.Lower

/-!
Names of pictographs between colons, such as `:rocket:`, and the pictographs in their place. A name may end
in `-text` or `-emoji` to ask for a plain or for a coloured one.
-/

namespace PluginKit.Text

inductive EmojiVariant where
  | text
  | emoji
  deriving DecidableEq

namespace EmojiVariant

def suffix : EmojiVariant → List Char
  | .text => "-text:".toList
  | .emoji => "-emoji:".toList

def selector : EmojiVariant → Char
  | .text => Char.ofNat 0xfe0e
  | .emoji => Char.ofNat 0xfe0f

end EmojiVariant

structure EmojiCode where
  name : List Char
  variant : Option EmojiVariant
  length : Nat

def emojiCode? (name : List Char) : List Char → Option EmojiCode
  | [] => none
  | c :: rest =>
    match [EmojiVariant.emoji, .text].find? fun v => v.suffix.isPrefixOf (c :: rest) with
    | some v => some ⟨name.reverse, some v, name.length + v.suffix.length⟩
    | none =>
      if c = ':' then some ⟨name.reverse, none, name.length + 1⟩
      else if isBlank c then none
      else emojiCode? (c :: name) rest

def EmojiCode.shown (code : EmojiCode) (written : List Char) : List Char :=
  match emojis.lookup (String.ofList (lower code.name)) with
  | some found => found.toList ++ (code.variant.map EmojiVariant.selector).toList
  | none => written

def withEmojisFrom (skip : Nat) : List Char → List Char
  | [] => []
  | c :: rest =>
    match skip with
    | k + 1 => withEmojisFrom k rest
    | 0 =>
      if c = ':' then
        match emojiCode? [] rest with
        | some code => code.shown (c :: rest.take code.length) ++ withEmojisFrom code.length rest
        | none => c :: withEmojisFrom 0 rest
      else c :: withEmojisFrom 0 rest

def withEmojis (s : List Char) : List Char := withEmojisFrom 0 s

end PluginKit.Text
