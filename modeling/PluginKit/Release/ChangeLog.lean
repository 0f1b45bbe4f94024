import PluginKit.Release.Commit
import PluginKit.Release.Version

/-!
Change logs: the summaries of commits, sorted into sections by their conventional prefix. Commits that
say nothing or only name a version are left out.
-/

namespace PluginKit.ChangeLog

inductive Section where
  | features
  | fixes
  | other
  deriving DecidableEq

namespace Section

def title : Section → String
  | .features => "Features"
  | .fixes => "Fixes"
  | .other => "Other"

def all : List Section := [.features, .fixes, .other]

end Section

def isAsciiLetter (c : Char) : Bool := ('a' ≤ c && c ≤ 'z') || ('A' ≤ c && c ≤ 'Z')

def toLower (c : Char) : Char := if 'A' ≤ c && c ≤ 'Z' then Char.ofNat (c.toNat + 32) else c

def withoutScope (s : List Char) : List Char :=
  match s with
  | '(' :: rest => match rest.dropWhile (· != ')') with
    | ')' :: after => after
    | _ => s
  | _ => s

def withoutBang : List Char → List Char
  | '!' :: rest => rest
  | s => s

def conventionalKind? (summary : List Char) : Option (List Char) :=
  let kind := summary.takeWhile isAsciiLetter
  match withoutBang (withoutScope (summary.dropWhile isAsciiLetter)) with
  | ':' :: _ => if kind.isEmpty then none else some (kind.map toLower)
  | _ => none

def sectionOf? (summary : List Char) : Option Section :=
  if summary.isEmpty || (Version.digits? summary).isSome then none
  else match conventionalKind? summary with
    | some ['f', 'e', 'a', 't'] => some .features
    | some ['f', 'i', 'x'] => some .fixes
    | _ => some .other

def line (c : Commit) : String := "* " ++ c.summary ++ " (" ++ c.shortSha ++ ")"

def linesOf (s : Section) (commits : List Commit) : List String :=
  (commits.filter fun c => sectionOf? c.summary.toList == some s).map line

def block? (s : Section) (commits : List Commit) : Option String :=
  let lines := linesOf s commits
  if lines.isEmpty then none
  else some ("### " ++ s.title ++ "\n\n" ++ String.intercalate "\n" lines)

def render (commits : List Commit) : String :=
  String.intercalate "\n\n" (Section.all.filterMap fun s => block? s commits)

end PluginKit.ChangeLog
