import PluginKit.Schema.Fault
import PluginKit.Schema.Scalar
import PluginKit.Text.Lines

/-!
Tags and commits, as a repository server describes them.
-/

namespace PluginKit

structure Tag where
  name : String
  sha : String
  deriving DecidableEq

def innerText (name : String) : Value → Schema.Checked String :=
  Schema.record (Schema.required [name] Schema.text)

namespace Tag

open Schema in
def ofFields (fields : Fields) : Checked Tag :=
  Tag.mk <$> required ["name"] text fields <*> required ["commit"] (innerText "sha") fields

def ofValue : Value → Schema.Checked Tag := Schema.record ofFields

end Tag

structure Commit where
  sha : String
  message : String
  htmlUrl : Option String
  deriving DecidableEq

namespace Commit

open Schema in
def ofFields (fields : Fields) : Checked Commit :=
  Commit.mk
    <$> required ["sha"] text fields
    <*> required ["commit"] (innerText "message") fields
    <*> withDefault none ["html_url"] (optional text) fields

def ofValue : Value → Schema.Checked Commit := Schema.record ofFields

def shortSha (c : Commit) : String := String.ofList (Text.takeCodes 7 c.sha.toList)

def summaryOf (message : List Char) : List Char :=
  match Text.lines (Text.trim message) with
  | [] => []
  | line :: _ => Text.trim line

def summary (c : Commit) : String := String.ofList (summaryOf c.message.toList)

end Commit

structure Comparison where
  status : String
  totalCommits : Int
  commits : List Commit

namespace Comparison

open Schema in
def ofFields (fields : Fields) : Checked Comparison :=
  Comparison.mk
    <$> withDefault "" ["status"] text fields
    <*> withDefault 0 ["total_commits"] int fields
    <*> withDefault [] ["commits"] (list Commit.ofValue) fields

def ofValue : Value → Schema.Checked Comparison := Schema.record ofFields

end Comparison

end PluginKit
