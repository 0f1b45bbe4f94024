import PluginKit.Console.Markup
import PluginKit.Text.Lines
import PluginKit.Text.Width

/-!
What a command prints for people: messages with a mark, banners and section rules. Everything is laid
out in lines; widths count the cells that a terminal needs.
-/

namespace PluginKit.Console

/-! ## Lines -/

def tabWidth : Nat := 8

def blanks (n : Nat) : List Char := List.replicate n ' '

def joinAtStops (position : Nat) : List (List Char) → List Char
  | [] => []
  | [last] => last
  | piece :: rest =>
    let reached := position + Text.cellWidth piece
    let gap := tabWidth - reached % tabWidth
    piece ++ blanks gap ++ joinAtStops (reached + gap) rest

def expandTabs (line : List Char) : List Char := joinAtStops 0 (Text.splitAt '\t' line)

def textLines (s : List Char) : List (List Char) :=
  (Text.splitAt '\n' (Markup.withoutControls s)).map expandTabs

def padded (width : Nat) (line : List Char) : List Char :=
  line ++ blanks (width - Text.cellWidth line)

def centred (width : Nat) (line : List Char) : List Char :=
  let visible := Text.trimEnd line
  blanks ((width - Text.cellWidth visible) / 2) ++ visible

def toTexts (lines : List (List Char)) : List String := lines.map String.ofList

/-! ## Messages -/

inductive Mood where
  | success
  | error
  | warning
  deriving DecidableEq

namespace Mood

def icon : Mood → String
  | .success => "✓"
  | .error => "✗"
  | .warning => "⚠"

def dress : Mood → String → String
  | .error, message => "[error]" ++ message ++ "[/error]"
  | _, message => message

end Mood

def message (mood : Mood) (mark : String) (body : String) (details : Option String) :
    Except Markup.Fault (List String) := do
  let text ← Markup.plain (mood.dress body).toList
  let below := match details with
    | some d => if d.isEmpty then [] else "\n   ".toList ++ d.toList
    | none => []
  return toTexts (textLines (mark.toList ++ [' '] ++ text ++ below))

def say (mood : Mood) (body : String) (details : Option String) : Except Markup.Fault (List String) :=
  message mood mood.icon body details

/-! ## Headers -/

def withIcon (icon : Option String) (title : String) : String :=
  match icon with
  | some i => if i.isEmpty then title else i ++ " " ++ title
  | none => title

def header (width : Nat) (title : String) (subtitle icon : Option String) : List String :=
  let inner := width - 2
  let below := match subtitle with
    | some s => if s.isEmpty then "" else "\n" ++ s
    | none => ""
  let rows := (textLines (withIcon icon title ++ below).toList).map fun line =>
    '║' :: blanks 2 ++ padded (inner - 4) line ++ blanks 2 ++ ['║']
  let space := '║' :: blanks inner ++ ['║']
  let edge := fun (left right : Char) => left :: List.replicate inner '═' ++ [right]
  toTexts ([[], edge '╔' '╗', space] ++ rows ++ [space, edge '╚' '╝', []])

def cropped (width : Nat) (line : List Char) : List Char :=
  match (List.range (Text.size line + 1)).reverse.find? fun n =>
    Text.cellWidth (Text.takeCodes n line) ≤ width with
  | some n => if n < Text.size line then padded width (Text.takeCodes n line) else line
  | none => []

def truncated (width : Nat) (line : List Char) : List Char :=
  if Text.cellWidth line ≤ width then line else cropped (width - 1) line ++ ['…']

def sectionRule (width : Nat) (title : String) (icon : Option String) :
    Except Markup.Fault (List String) := do
  let full := withIcon icon title
  let rule := fun n => List.replicate n '─'
  if full.isEmpty then return toTexts [[], rule width, []]
  let text ← Markup.plain full.toList
  if width ≤ 2 then return toTexts [[], rule width, []]
  let line := expandTabs (text.map fun c => if c = '\n' then ' ' else c)
  let start := truncated (width - 2) line ++ [' ']
  return toTexts [[], start ++ rule (width - Text.cellWidth start), []]

end PluginKit.Console
