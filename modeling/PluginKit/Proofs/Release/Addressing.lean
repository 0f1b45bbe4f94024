import PluginKit.Proofs.Text.Utf8
import PluginKit.Release.Client

/-!
Which questions can be put to a server. Whether an address can be formed shows by forming it; the check for characters
without an encoding is put in terms of lists for that.
-/

namespace PluginKit

open Net (Url escapePart)

def Utf8.lacking? (s : List Char) : Option EncodeFault :=
  if s.contains Text.standInMark then
    match (Text.codes s).span fun n => !Text.isSurrogate n with
    | (_, []) => none
    | (before, n :: rest) => some ⟨n, before.length, 1 + (rest.takeWhile Text.isSurrogate).length⟩
  else none

theorem Utf8.encodeFault?_eq (s : String) : encodeFault? s = lacking? s.toList := by
  rw [encodeFault?, String.contains_char_eq, lacking?]
  cases found : (Text.codes s.toList).span fun n => !Text.isSurrogate n with
  | mk before rest => cases rest <;> by_cases marked : Text.standInMark ∈ s.toList <;> simp [marked]

def Net.escapedBy (find : List Char → Option Utf8.EncodeFault) (keep : Char → Bool) (s : List Char) :
    Except UrlFault (List Char) :=
  match (Text.pieces s).findSome? find with
  | some fault => .error (.unencodable fault)
  | none => .ok (escape keep s)

theorem Net.escapePart_eq : escapePart = escapedBy Utf8.lacking? := by
  have same : (fun piece => Utf8.encodeFault? (String.ofList piece)) = Utf8.lacking? := by
    funext piece
    rw [Utf8.encodeFault?_eq, String.toList_ofList]
  exact congrArg escapedBy same

namespace Client

def Addressed (c : Client) (endpoint : String) (params : List (String × Value)) : Prop :=
  ∃ call, c.call endpoint params = .ok call ∧ call.url.hasKind = true

def reaches : Except FetchError Call → Bool
  | .ok call => call.url.hasKind
  | .error _ => false

def isAddressed (c : Client) (endpoint : String) (params : List (String × Value)) : Bool :=
  reaches (c.call endpoint params)

theorem addressed_iff {c : Client} {endpoint : String} {params : List (String × Value)} :
    c.Addressed endpoint params ↔ c.isAddressed endpoint params = true := by
  rw [Addressed, isAddressed]
  cases c.call endpoint params with
  | error e => simp [reaches]
  | ok call => simp [reaches]

def plainly : Client where
  repo := .text "o/r"
  branch := .text "main"
  apiUrl := "https://api.github.com"
  base := ⟨"https".toList, [], "api.github.com".toList, none, [], none, none⟩
  headers := [("accept", "application/vnd.github+json"), ("x-github-api-version", "2022-11-28")]

example : ((Url.parse plainly.apiUrl).bind Url.asBase).toOption = some plainly.base := by
  simp only [Url.parse, Url.ofParts, Net.escapePart_eq]
  decide +kernel

def questions : List (String × List (String × Value)) :=
  [("/tags", [("per_page", .int 100), ("page", .int 1)]), ("/tags", [("per_page", .int 100), ("page", .int 2)]),
    ("/commits", [("sha", .text "main"), ("per_page", .int 100)]),
    ("/commits", [("sha", .text "0.2.0"), ("per_page", .int 100)]), ("/compare/0.9.0...v0.10.0", [])]

theorem questions_addressed : ∀ q ∈ questions, plainly.Addressed q.1 q.2 := by
  have all : questions.all (fun q => plainly.isAddressed q.1 q.2) = true := by
    simp only [isAddressed, call, Url.parse, Url.join, Url.withTarget, Url.withQuery, Url.withParts, Url.ofParts,
      Net.escapePart_eq, paramQuery, Utf8.encodeFault?_eq]
    decide +kernel
  intro q member
  exact addressed_iff.mpr (List.all_eq_true.mp all q member)

end Client

end PluginKit
