import PluginKit.Proofs.Plugin.Activity
import PluginKit.Proofs.Schema.Fields
import PluginKit.Release.Client

/-!
Exchanges with a server. Whatever a client does leaves the server in use as it is, and what the server was sent and
how it answered follows from where it started: a request gets the answer that the server has for it then.
-/

namespace PluginKit

variable {σ : Type}

abbrev Talk := List (HttpRequest × HttpOutcome)

inductive Server.Hears (server : Server σ) : σ → Talk → σ → Prop where
  | nil (s : σ) : Hears server s [] s
  | cons {s t u : σ} {r : HttpRequest} {o : HttpOutcome} {talk : Talk} (answered : server.answer r s = (o, t))
      (rest : Hears server t talk u) : Hears server s ((r, o) :: talk) u

theorem Server.Hears.append {server : Server σ} {s t u : σ} {talk more : Talk} (first : server.Hears s talk t)
    (second : server.Hears t more u) : server.Hears s (talk ++ more) u := by
  induction first with
  | nil => exact second
  | cons answered _ ih => exact .cons answered (ih second)

theorem Server.Hears.eq_of_nil {server : Server σ} {s t : σ} (hears : server.Hears s [] t) : t = s := by
  cases hears
  rfl

theorem Server.Hears.eq_of_singleton {server : Server σ} {s t : σ} {r : HttpRequest} {o : HttpOutcome}
    (hears : server.Hears s [(r, o)] t) : t = (server.answer r s).2 := by
  cases hears with
  | cons answered rest => rw [answered, rest.eq_of_nil]

theorem Server.Hears.unique {server : Server σ} {s t u : σ} {talk other : Talk} (hears : server.Hears s talk t)
    (hears' : server.Hears s other u) (same : talk.map Prod.fst = other.map Prod.fst) : talk = other := by
  induction hears generalizing other with
  | nil => simpa using same.symm
  | cons answered rest ih =>
      cases hears' with
      | nil => simp at same
      | cons answered' rest' =>
          simp only [List.map_cons, List.cons.injEq] at same
          obtain ⟨rfl, same⟩ := same
          cases answered.symm.trans answered'
          rw [ih rest' same]

namespace Exchange

variable {x y z : Exchange σ} {talk more : Talk}

theorem requests_record (x : Exchange σ) (r : Log.Record) : (x.add (.record r)).requests = x.requests := by
  simp [requests, add]

theorem requests_request (x : Exchange σ) (r : HttpRequest) :
    (x.add (.request r)).requests = x.requests ++ [r] := by
  simp [requests, add]

structure Said (x : Exchange σ) (talk : Talk) (y : Exchange σ) : Prop where
  server : y.server = x.server
  hears : x.server.Hears x.state talk y.state
  requests : y.requests = x.requests ++ talk.map Prod.fst

namespace Said

theorem refl (x : Exchange σ) : x.Said [] x := ⟨rfl, .nil _, by simp⟩

theorem trans (first : x.Said talk y) (second : y.Said more z) : x.Said (talk ++ more) z where
  server := second.server.trans first.server
  hears := first.hears.append (first.server ▸ second.hears)
  requests := by rw [second.requests, first.requests, List.map_append, List.append_assoc]

theorem record (x : Exchange σ) (r : Log.Record) : x.Said [] (x.add (.record r)) :=
  ⟨rfl, .nil _, by rw [requests_record]; simp⟩

theorem state_nil (said : x.Said [] y) : y.state = x.state := said.hears.eq_of_nil

theorem state_eq {r : HttpRequest} {o : HttpOutcome} (said : x.Said [(r, o)] y) :
    y.state = (x.server.answer r x.state).2 := said.hears.eq_of_singleton

theorem unique (said : x.Said talk y) (said' : x.Said more y) : talk = more := by
  apply said.hears.unique said'.hears
  simpa [said.requests] using said'.requests

end Said

end Exchange

/-! ## Answers -/

def HttpOutcome.Tells (outcome : HttpOutcome) (v : Value) : Prop :=
  ∃ status body text, outcome = .response status body ∧ status < 400 ∧ Text.decodeBody body = some text ∧
    Json.parse text = .ok v

theorem Fetch.readResponse_of_tells {status : Int} {body : List UInt8} {v : Value}
    (told : (HttpOutcome.response status body).Tells v) (path : String) : readResponse path status body = .ok v := by
  obtain ⟨status, body, text, same, low, decoded, parsed⟩ := told
  cases same
  have fine : ¬ (status = 401 ∨ status = 403) ∧ status ≠ 404 ∧ ¬ 400 ≤ status := by omega
  simp [readResponse, fine, decoded, parsed]

namespace Client

def reading (c : Client) (endpoint : String) (call : Call) : HttpOutcome → Except FetchError Value
  | .connectError message => .error (.changeLog (.connect c.apiUrl message))
  | .timeout message => .error (.changeLog (.timeout message))
  | .otherFailure kind message => .error (.connection kind message)
  | .response status body =>
    if call.url.hasKind then Fetch.readResponse (c.path endpoint) status body
    else .error (.unknownKind (String.ofList call.url.bare))

theorem request_of_call {c : Client} {endpoint : String} {params : List (String × Value)} {call : Call}
    (called : c.call endpoint params = .ok call) :
    call.request.path = c.path endpoint ∧ call.request.params = params := by
  unfold Client.call at called
  simp only [bind_eq_ok] at called
  obtain ⟨relative, -, joined, -, called⟩ := called
  split at called
  all_goals
    simp only [bind_eq_ok] at called
    obtain ⟨url, -, called⟩ := called
    split at called
    · cases called
    · cases called
    · cases called
      exact ⟨rfl, rfl⟩

theorem reading_of_tells {c : Client} {endpoint : String} {call : Call} {outcome : HttpOutcome} {v : Value}
    (told : outcome.Tells v) (kind : call.url.hasKind = true) : c.reading endpoint call outcome = .ok v := by
  obtain ⟨status, body, text, rfl, rest⟩ := id told
  rw [reading, if_pos kind, Fetch.readResponse_of_tells told]

end Client

namespace Fetch

open Activity

variable {c : Client} {endpoint : String} {params : List (String × Value)} {call : Call}

theorem send_said (r : HttpRequest) (x : Exchange σ) :
    ∃ y, send r x = (.ok (x.server.answer r x.state).1, y) ∧ x.Said [(r, (x.server.answer r x.state).1)] y :=
  ⟨_, rfl, rfl, .cons rfl (.nil _), Exchange.requests_request _ r⟩

theorem log_said (message : String) (x : Exchange σ) : ∃ y, log message x = (.ok (), y) ∧ x.Said [] y :=
  ⟨_, rfl, .record x _⟩

theorem get_refused {e : FetchError} (refused : c.call endpoint params = .error e) (x : Exchange σ) :
    ∃ y, get c endpoint params x = (.error e, y) ∧ x.Said [] y := by
  obtain ⟨y, logged, said⟩ := log_said
    ("GitHub API request: GET " ++ c.path endpoint ++ " params=" ++ paramsText params) x
  refine ⟨y, ?_, said⟩
  rw [get, bind_ok logged, refused]
  rfl

def conclude (c : Client) (endpoint : String) (call : Call) : HttpOutcome → Fetch σ Value
  | .connectError message => do
    log ("GitHub connection error: " ++ message)
    fail (.connect c.apiUrl message)
  | .timeout message => do
    log ("GitHub timeout: " ++ message)
    fail (.timeout message)
  | .otherFailure kind message => throw (.connection kind message)
  | .response status body =>
    if !call.url.hasKind then throw (.unknownKind (String.ofList call.url.bare))
    else match readResponse (c.path endpoint) status body with
      | .ok value => pure value
      | .error error => throw error

theorem conclude_said (c : Client) (endpoint : String) (call : Call) (outcome : HttpOutcome) (x : Exchange σ) :
    ∃ y, conclude c endpoint call outcome x = (c.reading endpoint call outcome, y) ∧ x.Said [] y := by
  cases outcome with
  | connectError message => exact ⟨_, rfl, .record x _⟩
  | timeout message => exact ⟨_, rfl, .record x _⟩
  | otherFailure kind message => exact ⟨x, rfl, .refl x⟩
  | response status body =>
      refine ⟨x, ?_, .refl x⟩
      cases kind : call.url.hasKind with
      | false => simp [conclude, Client.reading, kind]; rfl
      | true =>
          cases read : readResponse (c.path endpoint) status body <;>
            simp [conclude, Client.reading, kind, read] <;> rfl

theorem get_eq (called : c.call endpoint params = .ok call) :
    get (σ := σ) c endpoint params = (do
      log ("GitHub API request: GET " ++ c.path endpoint ++ " params=" ++ paramsText params)
      conclude c endpoint call (← send call.request)) := by
  unfold get conclude
  rw [called]
  simp only [pure_bind]
  congr 1

theorem get_called (called : c.call endpoint params = .ok call) (x : Exchange σ) :
    ∃ y, get c endpoint params x = (c.reading endpoint call (x.server.answer call.request x.state).1, y) ∧
      x.Said [(call.request, (x.server.answer call.request x.state).1)] y := by
  let asked := "GitHub API request: GET " ++ c.path endpoint ++ " params=" ++ paramsText params
  let noted := x.add (.record ⟨logger, Log.debugLevel, asked⟩)
  obtain ⟨sent, answered, said⟩ := send_said call.request noted
  obtain ⟨y, concluded, silent⟩ := conclude_said c endpoint call
    (noted.server.answer call.request noted.state).1 sent
  refine ⟨y, ?_, ((Exchange.Said.record x _).trans said).trans silent⟩
  rw [get_eq called, bind_ok (rfl : log asked x = (.ok (), noted)), bind_ok answered, concluded]
  rfl

/-! ## Questions -/

variable {α : Type}

def ofExcept : Except FetchError α → Fetch σ α
  | .ok a => pure a
  | .error e => throw e

def inquire (c : Client) (endpoint : String) (params : List (String × Value)) (read : Value → Except FetchError α) :
    Fetch σ α := do
  ofExcept (read (← get c endpoint params))

theorem inquire_refused (read : Value → Except FetchError α) {e : FetchError}
    (refused : c.call endpoint params = .error e) (x : Exchange σ) :
    ∃ y, inquire c endpoint params read x = (.error e, y) ∧ x.Said [] y := by
  obtain ⟨y, got, said⟩ := get_refused refused x
  exact ⟨y, bind_error got, said⟩

theorem inquire_called (read : Value → Except FetchError α) (called : c.call endpoint params = .ok call)
    (x : Exchange σ) :
    ∃ y, inquire c endpoint params read x =
        ((c.reading endpoint call (x.server.answer call.request x.state).1).bind read, y) ∧
      x.Said [(call.request, (x.server.answer call.request x.state).1)] y := by
  obtain ⟨y, got, said⟩ := get_called called x
  refine ⟨y, ?_, said⟩
  cases found : c.reading endpoint call (x.server.answer call.request x.state).1 with
  | error e => exact bind_error (found ▸ got)
  | ok value =>
      rw [inquire, bind_ok (found ▸ got)]
      cases checked : read value <;> simp [Except.bind, checked, ofExcept] <;> rfl

abbrev Shaped (check : Value → Schema.Checked α) (items : List Value) (found : List α) : Prop :=
  List.Forall₂ (fun item a => check item = .valid a) items found

theorem readItems_of_shaped {check : Value → Schema.Checked α} {items : List Value} {found : List α}
    (shaped : Shaped check items found) : readItems check (.list items) = .ok found := by
  rw [readItems, Value.iterate?]
  induction shaped with
  | nil => rfl
  | cons valid _ ih =>
      dsimp only at ih ⊢
      rw [readAll, valid, ih]
      rfl

def readPage (data : Value) : Except FetchError (List Tag) :=
  (readItems Tag.ofValue data).mapError fun fault => .changeLog (.badTags fault)

def pageParams (page : Nat) : List (String × Value) := [("per_page", .int pageSize), ("page", .int page)]

theorem tagsFrom_succ (c : Client) (limit page : Nat) :
    tagsFrom (σ := σ) c (limit + 1) page = (do
      let tags ← inquire c "/tags" (pageParams page) readPage
      if tags.length < pageSize then pure tags else return tags ++ (← tagsFrom c limit (page + 1))) := by
  rw [tagsFrom, inquire, bind_assoc]
  congr 1
  funext data
  rw [readPage]
  cases readItems Tag.ofValue data <;> rfl

def commitsEndpoint (base : Option String) (head : Value) : String :=
  match base with
  | none => "/commits"
  | some base => "/compare/" ++ base ++ "..." ++ head.display

def commitsParams (base : Option String) (head : Value) : List (String × Value) :=
  match base with
  | none => [("sha", head), ("per_page", .int pageSize)]
  | some _ => []

def readCommits (base : Option String) (data : Value) : Except FetchError (List Commit) :=
  match base with
  | none => (readItems Commit.ofValue data).mapError fun fault => .changeLog (.badCommits fault)
  | some _ => match Comparison.ofValue data with
    | .valid found => .ok found.commits
    | .invalid faults => .error (.changeLog (.badCommits (.invalid faults)))

theorem commits_eq (c : Client) (base : Option String) (head : Value) :
    commits (σ := σ) c base head =
      inquire c (commitsEndpoint base head) (commitsParams base head) (readCommits base) := by
  cases base with
  | none =>
      rw [commits, inquire]
      congr 1
      funext data
      rw [readCommits]
      cases readItems Commit.ofValue data <;> rfl
  | some base =>
      rw [commits, inquire]
      congr 1
      funext data
      rw [readCommits]
      cases Comparison.ofValue data <;> rfl

end Fetch

end PluginKit
