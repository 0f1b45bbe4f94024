import PluginKit.Json.Parser
import PluginKit.Log.Record
import PluginKit.Net.Url
import PluginKit.Release.ChangeLog
import PluginKit.Release.Notes
import PluginKit.Signature
import PluginKit.Text.Encoding
import PluginKit.Value.Literal
import PluginKit.Value.Mapping

/-!
Asking a repository server for tags and commits, and making the change log of a release out of the
answers. The server is anything that answers requests; all that was asked of it is kept.
-/

namespace PluginKit

open Net (Url UrlFault LabelFault)

/-! ## Servers -/

structure HttpRequest where
  path : String
  params : List (String × Value)
  url : String
  headers : List (String × String)

inductive HttpOutcome where
  | response (status : Int) (body : List UInt8)
  | connectError (message : String)
  | timeout (message : String)
  | otherFailure (kind message : String)

structure Server (σ : Type) where
  answer : HttpRequest → σ → HttpOutcome × σ

/-! ## Errors -/

inductive ShapeFault where
  | invalid (faults : List Schema.Fault)
  | notIterable (kind : String)
  deriving DecidableEq

def ShapeFault.detail : ShapeFault → String
  | .invalid _ => ""
  | .notIterable kind => ": '" ++ kind ++ "' object is not iterable"

inductive ChangeLogError where
  | connect (apiUrl message : String)
  | timeout (message : String)
  | refused (status : Int)
  | notFound (path : String)
  | failed (code : Int)
  | badJson (path : String) (status : Int)
  | badTags (fault : ShapeFault)
  | badCommits (fault : ShapeFault)
  deriving DecidableEq

namespace ChangeLogError

def message : ChangeLogError → String
  | .connect apiUrl message => "Failed to connect to " ++ apiUrl ++ ": " ++ message
  | .timeout message => "Request timed out: " ++ message
  | .refused code =>
    "GitHub refused the request (" ++ intText code ++ "). " ++
      "Check GITHUB_TOKEN or wait for the rate limit to reset."
  | .notFound path => "Not found: " ++ path
  | .failed code => "GitHub API error: " ++ intText code
  | .badJson path _ => "GitHub returned invalid JSON for " ++ path
  | .badTags fault => "Unexpected tags response" ++ fault.detail
  | .badCommits fault => "Unexpected commits response" ++ fault.detail

def code? : ChangeLogError → Option Int
  | .refused code => some code
  | .notFound _ => some 404
  | .failed code => some code
  | .badJson _ code => some code
  | _ => none

end ChangeLogError

structure HeaderFault where
  first : Nat
  position : Nat
  length : Nat
  deriving DecidableEq

def HeaderFault.message (fault : HeaderFault) : String :=
  let place :=
    if fault.length ≤ 1 then
      let n := fault.first
      let escape :=
        if n < 0x100 then 'x' :: Text.hex 2 n
        else if n < 0x10000 then 'u' :: Text.hex 4 n
        else 'U' :: Text.hex 8 n
      "character '\\" ++ String.ofList escape ++ "' in position " ++ toString fault.position
    else
      "characters in position " ++ toString fault.position ++ "-" ++
        toString (fault.position + fault.length - 1)
  "'ascii' codec can't encode " ++ place ++ ": ordinal not in range(128)"

def headerFault? (s : List Char) : Option HeaderFault :=
  let (before, found) := (Text.codes s).span (· < 0x80)
  match found with
  | [] => none
  | n :: rest => some ⟨n, before.length, 1 + (rest.takeWhile (0x80 ≤ ·)).length⟩

/-- What ends an exchange: an error of the change log, an address that cannot be asked for, a host that no
header can name or whose name is encoded wrongly, an address that does not say how to ask, another failure of
the connection, a body that is nested too deeply, a tag whose numbers are too long, a release that is no
name, or a server that never comes to an end. -/
inductive FetchError where
  | changeLog (error : ChangeLogError)
  | badUrl (fault : UrlFault)
  | badHeader (fault : HeaderFault)
  | badName (fault : LabelFault)
  | unknownKind (url : String)
  | connection (kind message : String)
  | tooDeep (error : Json.Error)
  | version (fault : Whole.Fault)
  | noName (kind : String)
  | endless

def FetchError.message : FetchError → String
  | .changeLog error => error.message
  | .badUrl fault => fault.message
  | .badHeader fault => fault.message
  | .badName fault => fault.message
  | .unknownKind url => "unknown url type: " ++ Text.quoted url
  | .connection _ message => message
  | .tooDeep error => error.message
  | .version fault => fault.message
  | .noName kind => "unhashable type: '" ++ kind ++ "'"
  | .endless => "the list of tags does not end"

/-! ## Clients -/

structure Client where
  repo : Value
  branch : Value
  apiUrl : String
  base : Url
  headers : List (String × String)

inductive ClientFault where
  | arguments (fault : Signature.Fault)
  | noText (kind : String)
  | badUrl (fault : UrlFault)
  | badHeader (fault : HeaderFault)
  deriving DecidableEq

def ClientFault.message : ClientFault → String
  | .arguments fault => fault.message
  | .noText kind => "'" ++ kind ++ "' object has no attribute 'rstrip'"
  | .badUrl fault => fault.message
  | .badHeader fault => fault.message

structure Call where
  request : HttpRequest
  url : Url

namespace Client

def create (repo token apiUrl branch : Value) : Except ClientFault Client := do
  let .text given := apiUrl | throw (.noText apiUrl.kind)
  let address := Notes.withoutSlashes given
  let base ← ((Url.parse address).bind Url.asBase).mapError .badUrl
  let fixed := [("accept", "application/vnd.github+json"), ("x-github-api-version", "2022-11-28")]
  if token.isVoid then return ⟨repo, branch, address, base, fixed⟩
  let authorization := "Bearer " ++ token.display
  match headerFault? authorization.toList with
  | some fault => throw (.badHeader fault)
  | none => return ⟨repo, branch, address, base, fixed ++ [("authorization", authorization)]⟩

def signature : Signature :=
  ⟨"GitHubChangeLog.__init__", ["self"], ["repo"], ["token", "api_url", "branch", "timeout", "transport"]⟩

def ofArguments (arguments : List (String × Value)) : Except ClientFault Client :=
  match signature.fault? (arguments.map Prod.fst) with
  | some fault => .error (.arguments fault)
  | none =>
    let given := fun (name : String) (default : String) =>
      (arguments.lookup name).getD (.text default)
    create (given "repo" "") (given "token" "") (given "api_url" "https://api.github.com")
      (given "branch" "main")

def path (c : Client) (endpoint : String) : String := "/repos/" ++ c.repo.display ++ endpoint

def plainParam : Value → String
  | .null => ""
  | .flag b => if b then "true" else "false"
  | v => v.display

def paramTexts : Value → List String
  | .list items => items.map plainParam
  | v => [plainParam v]

def paramQuery (params : List (String × Value)) : Except UrlFault (List Char) :=
  let texts := params.flatMap fun (name, value) => (paramTexts value).map (name, ·)
  match texts.findSome? fun param => Utf8.encodeFault? param.2 with
  | some fault => .error (.unencodable fault)
  | none => .ok (Net.formQuery texts)

def headersFor (c : Client) (url : Url) : List (String × String) :=
  match url.credentials? with
  | some credentials =>
    c.headers.filter (·.1 != "authorization") ++ [("authorization", credentials)]
  | none => c.headers

def call (c : Client) (endpoint : String) (params : List (String × Value)) : Except FetchError Call := do
  let relative ← (Url.parse (c.path endpoint)).mapError .badUrl
  let joined ← (c.base.join relative).mapError .badUrl
  let url ← if params.isEmpty then pure joined
    else ((paramQuery params).bind fun query => joined.withQuery (some query)).mapError .badUrl
  match headerFault? url.server, url.nameFault? with
  | some fault, _ => throw (.badHeader fault)
  | none, some fault => throw (.badName fault)
  | none, none =>
    return ⟨⟨c.path endpoint, params, String.ofList url.text, c.headersFor url⟩, url⟩

end Client

/-! ## Exchanges -/

inductive ExchangeEvent where
  | request (r : HttpRequest)
  | record (r : Log.Record)

structure Exchange (σ : Type) where
  server : Server σ
  state : σ
  events : List ExchangeEvent

namespace Exchange

def requests {σ : Type} (x : Exchange σ) : List HttpRequest :=
  x.events.filterMap fun
    | .request r => some r
    | .record _ => none

def log {σ : Type} (x : Exchange σ) : List Log.Record :=
  x.events.filterMap fun
    | .request _ => none
    | .record r => some r

def add {σ : Type} (x : Exchange σ) (event : ExchangeEvent) : Exchange σ :=
  { x with events := x.events ++ [event] }

end Exchange

abbrev Fetch (σ : Type) := ExceptT FetchError (StateM (Exchange σ))

namespace Fetch

variable {σ : Type}

def logger : String := Log.partLogger "release.changelog"

def log (message : String) : Fetch σ Unit :=
  modify fun x => x.add (.record ⟨logger, Log.debugLevel, message⟩)

def fail {α : Type} (error : ChangeLogError) : Fetch σ α := throw (.changeLog error)

def send (r : HttpRequest) : Fetch σ HttpOutcome := fun x =>
  let (outcome, state) := x.server.answer r x.state
  (.ok outcome, { x with state := state }.add (.request r))

def readResponse (path : String) (status : Int) (body : List UInt8) : Except FetchError Value :=
  if status = 401 || status = 403 then .error (.changeLog (.refused status))
  else if status = 404 then .error (.changeLog (.notFound path))
  else if 400 ≤ status then .error (.changeLog (.failed status))
  else match Text.decodeBody body with
    | none => .error (.changeLog (.badJson path status))
    | some text => match Json.parse text with
      | .ok value => .ok value
      | .error error => match error.problem with
        | .tooDeep _ => .error (.tooDeep error)
        | _ => .error (.changeLog (.badJson path status))

def paramsText (params : List (String × Value)) : String :=
  if params.isEmpty then "None" else (Value.record params).literal

def get (c : Client) (endpoint : String) (params : List (String × Value)) : Fetch σ Value := do
  let path := c.path endpoint
  log ("GitHub API request: GET " ++ path ++ " params=" ++ paramsText params)
  let call ← match c.call endpoint params with
    | .error error => throw error
    | .ok call => pure call
  match ← send call.request with
  | .connectError message =>
    log ("GitHub connection error: " ++ message)
    fail (.connect c.apiUrl message)
  | .timeout message =>
    log ("GitHub timeout: " ++ message)
    fail (.timeout message)
  | .otherFailure kind message => throw (.connection kind message)
  | .response status body =>
    if !call.url.hasKind then throw (.unknownKind (String.ofList call.url.bare))
    match readResponse path status body with
    | .ok value => pure value
    | .error error => throw error

def readAll {α : Type} (check : Value → Schema.Checked α) : List Value → Except ShapeFault (List α)
  | [] => .ok []
  | v :: rest => match check v with
    | .invalid faults => .error (.invalid faults)
    | .valid a => (readAll check rest).map (a :: ·)

def readItems {α : Type} (check : Value → Schema.Checked α) (v : Value) : Except ShapeFault (List α) :=
  match v.iterate? with
  | none => .error (.notIterable v.kind)
  | some items => readAll check items

def pageSize : Nat := 100

/-- All tags from a page on. A page that is not full is the last one; no more than `limit` pages are
asked for. -/
def tagsFrom (c : Client) : Nat → Nat → Fetch σ (List Tag)
  | 0, _ => throw .endless
  | limit + 1, page => do
    let data ← get c "/tags" [("per_page", .int pageSize), ("page", .int page)]
    match readItems Tag.ofValue data with
    | .error fault => fail (.badTags fault)
    | .ok tags =>
      if tags.length < pageSize then pure tags
      else return tags ++ (← tagsFrom c limit (page + 1))

def tags (c : Client) (limit : Nat) : Fetch σ (List Tag) := tagsFrom c limit 1

def versionTags (tags : List Tag) : Except Whole.Fault (List String) := do
  let versioned ← tags.filterMapM fun tag => do
    return (← Version.ofTag tag.name).map fun v => (v, tag.name)
  return (versioned.mergeSort fun a b => b.1.ble a.1).map Prod.snd

def versions (c : Client) (limit : Nat) : Fetch σ (List String) := do
  match versionTags (← tags c limit) with
  | .ok names => return names
  | .error fault => throw (.version fault)

def commits (c : Client) (base : Option String) (head : Value) : Fetch σ (List Commit) := do
  match base with
  | none =>
    let data ← get c "/commits" [("sha", head), ("per_page", .int pageSize)]
    match readItems Commit.ofValue data with
    | .ok found => pure found
    | .error fault => fail (.badCommits fault)
  | some base =>
    let data ← get c ("/compare/" ++ base ++ "..." ++ head.display) []
    match Comparison.ofValue data with
    | .valid found => pure found.commits
    | .invalid faults => fail (.badCommits (.invalid faults))

/-- Head and base of a release among version tags, highest first: its own tag and the one after it,
or the branch and the highest tag when it is not tagged. -/
def range (names : List String) (branch version : Value) : Value × Option String :=
  match names.dropWhile fun name =>
      version.text? != some name && name != "v" ++ version.display with
  | [] => (branch, names.head?)
  | head :: lower => (.text head, lower.head?)

def isName : Value → Bool
  | .list _ | .object _ | .set _ => false
  | _ => true

def changeLog (c : Client) (limit : Nat) (version : Value) : Fetch σ String := do
  if !isName version then throw (.noName version.kind)
  let names ← versions c limit
  let (head, base) := range names c.branch version
  log ("Changelog for " ++ version.display ++ ": " ++ base.getD "None" ++ "..." ++ head.display)
  let found ← commits c base head
  log ("Collected " ++ toString found.length ++ " commits for " ++ version.display)
  return ChangeLog.render found

def notesLogger : String := Log.partLogger "release.notes"

def notes (c : Client) (limit : Nat) (version : Value) (settings : ReleaseSettings) :
    Fetch σ String := do
  let text ← changeLog c limit version
  modify fun x => x.add (.record ⟨notesLogger, Log.debugLevel,
    "Rendering release notes for " ++ version.display ++ " (" ++ toString (Text.size text.toList) ++
      " changelog chars)"⟩)
  return Notes.render version.display text settings

end Fetch

end PluginKit
