import PluginKit.Proofs.Release.Range

/-!
What becomes of a question that goes wrong. Every outcome of a request has a verdict, which follows from what was asked
for and the outcome alone. A change log is told if all verdicts are good; otherwise the first bad one ends the exchange
and decides what is reported.
-/

namespace PluginKit

/-! ## Verdicts -/

inductive ChangeLogError.Family where
  | connection
  | access
  | missing
  | general
  deriving DecidableEq

def ChangeLogError.family : ChangeLogError → Family
  | .connect _ _ | .timeout _ => .connection
  | .refused _ => .access
  | .notFound _ => .missing
  | .failed _ | .badJson _ _ | .badTags _ | .badCommits _ => .general

def Schema.Checked.isValid {α : Type} : Checked α → Bool
  | .valid _ => true
  | .invalid _ => false

theorem Schema.Checked.isValid_valid {α : Type} (a : α) : (Checked.valid a).isValid = true := rfl

def Json.Problem.isDeep : Problem → Bool
  | .tooDeep _ => true
  | _ => false

namespace Fetch

open Activity
open Version (Readable)

inductive Sought where
  | tags
  | commits
  | comparison
  deriving DecidableEq

def Sought.fits : Sought → Value → Bool
  | .tags, v => v.iterate?.any fun items => items.all fun item => (Tag.ofValue item).isValid
  | .commits, v => v.iterate?.any fun items => items.all fun item => (Commit.ofValue item).isValid
  | .comparison, v => (Comparison.ofValue v).isValid

inductive Verdict where
  | fine
  | reported (family : ChangeLogError.Family) (code : Option Int)
  | deep
  | broken (kind message : String)
  deriving DecidableEq

def verdict (sought : Sought) : HttpOutcome → Verdict
  | .connectError _ | .timeout _ => .reported .connection none
  | .otherFailure kind message => .broken kind message
  | .response status body =>
    if status = 401 ∨ status = 403 then .reported .access (some status)
    else if status = 404 then .reported .missing (some 404)
    else if 400 ≤ status then .reported .general (some status)
    else match Text.decodeBody body with
      | none => .reported .general (some status)
      | some text => match Json.parse text with
        | .ok v => if sought.fits v then .fine else .reported .general none
        | .error e => if e.problem.isDeep then .deep else .reported .general (some status)

def Settles {α : Type} : Verdict → Except FetchError α → Prop
  | .fine, result => ∃ a, result = .ok a
  | .reported family code, result => ∃ e, result = .error (.changeLog e) ∧ e.family = family ∧ e.code? = code
  | .deep, result => ∃ e, result = .error (.tooDeep e)
  | .broken kind message, result => result = .error (.connection kind message)

theorem status_of_fine {sought : Sought} {outcome : HttpOutcome} (fine : verdict sought outcome = .fine) :
    ∃ status body, outcome = .response status body ∧ status < 400 := by
  cases outcome with
  | connectError message => cases fine
  | timeout message => cases fine
  | otherFailure kind message => cases fine
  | response status body =>
      refine ⟨status, body, rfl, ?_⟩
      by_contra high
      simp only [verdict, Int.not_lt.mp high, if_true] at fine
      split at fine
      · cases fine
      · split at fine <;> cases fine

/-! ## One question -/

section Question

variable {α σ : Type} {c : Client} {endpoint : String} {params : List (String × Value)} {call : Call}
  {read : Value → Except FetchError α} {sought : Sought}

def Sought.ReadBy (sought : Sought) (read : Value → Except FetchError α) : Prop :=
  ∀ v, Settles (if sought.fits v then .fine else .reported .general none) (read v)

theorem readItems_cases (check : Value → Schema.Checked α) (v : Value) :
    if v.iterate?.any fun items => items.all fun item => (check item).isValid then
      ∃ found, readItems check v = .ok found
    else ∃ fault, readItems check v = .error fault := by
  rw [readItems]
  cases v.iterate? with
  | none => exact ⟨_, rfl⟩
  | some items =>
      simp only [Option.any_some]
      induction items with
      | nil => exact ⟨[], rfl⟩
      | cons item items ih =>
          rw [List.all_cons, readAll]
          cases check item with
          | invalid faults => exact ⟨_, rfl⟩
          | valid a =>
              simp only [Schema.Checked.isValid_valid, Bool.true_and]
              split at ih
              · rename_i all
                obtain ⟨found, rest⟩ := ih
                rw [if_pos all]
                exact ⟨_, by rw [rest]; rfl⟩
              · rename_i broken
                obtain ⟨fault, rest⟩ := ih
                rw [if_neg broken]
                exact ⟨_, by rw [rest]; rfl⟩

theorem readItems_settles (check : Value → Schema.Checked α) {report : ShapeFault → ChangeLogError}
    (general : ∀ fault, (report fault).family = .general ∧ (report fault).code? = none) (v : Value) :
    Settles (if v.iterate?.any fun items => items.all fun item => (check item).isValid then .fine
        else .reported .general none)
      ((readItems check v).mapError fun fault => .changeLog (report fault)) := by
  have cases := readItems_cases check v
  split at cases
  · rename_i fits
    obtain ⟨found, read⟩ := cases
    rw [if_pos fits, read]
    exact ⟨found, rfl⟩
  · rename_i unfit
    obtain ⟨fault, read⟩ := cases
    rw [if_neg unfit, read]
    exact ⟨report fault, rfl, general fault⟩

theorem tags_readBy : Sought.tags.ReadBy readPage :=
  fun v => readItems_settles Tag.ofValue (fun _ => ⟨rfl, rfl⟩) v

def soughtCommits : Option String → Sought
  | none => .commits
  | some _ => .comparison

theorem commits_readBy (base : Option String) : (soughtCommits base).ReadBy (readCommits base) := by
  intro v
  cases base with
  | none => exact readItems_settles Commit.ofValue (fun _ => ⟨rfl, rfl⟩) v
  | some base =>
      rw [readCommits, soughtCommits, Sought.fits]
      cases Comparison.ofValue v with
      | valid found => exact ⟨found.commits, rfl⟩
      | invalid faults => exact ⟨_, rfl, rfl, rfl⟩

theorem readResponse_settles (readBy : sought.ReadBy read) (path : String) (status : Int) (body : List UInt8) :
    Settles (verdict sought (.response status body)) ((readResponse path status body).bind read) := by
  rw [readResponse, verdict]
  simp only [Bool.or_eq_true, decide_eq_true_eq]
  split
  · exact ⟨_, rfl, rfl, rfl⟩
  · split
    · exact ⟨_, rfl, rfl, rfl⟩
    · split
      · exact ⟨_, rfl, rfl, rfl⟩
      · cases Text.decodeBody body with
        | none => exact ⟨_, rfl, rfl, rfl⟩
        | some text =>
            dsimp only
            cases Json.parse text with
            | ok v => exact readBy v
            | error e =>
                obtain ⟨problem, line, column, offset⟩ := e
                cases problem
                case tooDeep => exact ⟨_, rfl⟩
                all_goals exact ⟨_, rfl, rfl, rfl⟩

theorem reading_settles (readBy : sought.ReadBy read) (kind : call.url.hasKind = true) (outcome : HttpOutcome) :
    Settles (verdict sought outcome) ((c.reading endpoint call outcome).bind read) := by
  cases outcome with
  | connectError message => exact ⟨_, rfl, rfl, rfl⟩
  | timeout message => exact ⟨_, rfl, rfl, rfl⟩
  | otherFailure kind message => rfl
  | response status body =>
      rw [Client.reading, if_pos kind]
      exact readResponse_settles readBy _ _ _

end Question

/-! ## Whole exchanges -/

variable {α β σ : Type} {c : Client} {talk before : Talk} {result : Except FetchError α}

theorem path_injective {endpoint other : String} (same : c.path endpoint = c.path other) : endpoint = other := by
  simpa [Client.path, String.append_assoc, String.append_right_inj] using same

def soughtBy (c : Client) (r : HttpRequest) : Sought :=
  if r.path = c.path "/tags" then .tags else if r.path = c.path "/commits" then .commits else .comparison

def judge (c : Client) (part : HttpRequest × HttpOutcome) : Verdict := verdict (soughtBy c part.1) part.2

/-- How talk ends: all of it is fine and something is told, or its last part alone is bad and settles the result. -/
inductive Concludes (c : Client) : Talk → Except FetchError α → Prop where
  | told {talk : Talk} (a : α) (fine : ∀ part ∈ talk, judge c part = .fine) : Concludes c talk (.ok a)
  | stopped {before : Talk} {last : HttpRequest × HttpOutcome} {result : Except FetchError α}
      (fine : ∀ part ∈ before, judge c part = .fine) (bad : judge c last ≠ .fine)
      (settles : Settles (judge c last) result) : Concludes c (before ++ [last]) result

theorem Settles.concludes {part : HttpRequest × HttpOutcome} (settles : Settles (judge c part) result) :
    Concludes c [part] result := by
  by_cases fine : judge c part = .fine
  · rw [fine] at settles
    obtain ⟨a, rfl⟩ := settles
    exact .told a fun other member => List.mem_singleton.mp member ▸ fine
  · have concludes : Concludes c ([] ++ [part]) result := .stopped (by simp) fine settles
    exact concludes

theorem Settles.error {verdict : Verdict} (bad : verdict ≠ .fine) (settles : Settles verdict result) :
    ∃ e, result = .error e ∧ ∀ β : Type, Settles verdict (.error e : Except FetchError β) := by
  cases verdict with
  | fine => exact absurd rfl bad
  | reported family code =>
      obtain ⟨e, same, rest⟩ := settles
      exact ⟨_, same, fun _ => ⟨e, rfl, rest⟩⟩
  | deep =>
      obtain ⟨e, same⟩ := settles
      exact ⟨_, same, fun _ => ⟨e, rfl⟩⟩
  | broken kind message => exact ⟨_, settles, fun _ => rfl⟩

namespace Concludes

theorem fine_of_ok {a : α} (concludes : Concludes c talk (.ok a)) : ∀ part ∈ talk, judge c part = .fine := by
  generalize same : Except.ok a = result at concludes
  cases concludes with
  | told a fine => exact fine
  | stopped fine bad settles =>
      obtain ⟨e, failed, -⟩ := settles.error bad
      cases same.trans failed

theorem after (fine : ∀ part ∈ before, judge c part = .fine) (concludes : Concludes c talk result) :
    Concludes c (before ++ talk) result := by
  cases concludes with
  | told a rest => exact .told a fun part member => (List.mem_append.mp member).elim (fine part) (rest part)
  | stopped rest bad settles =>
      rw [← List.append_assoc]
      exact .stopped (fun part member => (List.mem_append.mp member).elim (fine part) (rest part)) bad settles

theorem map (f : α → β) (concludes : Concludes c talk result) : Concludes c talk (result.map f) := by
  cases concludes with
  | told a fine => exact .told (f a) fine
  | stopped fine bad settles =>
      obtain ⟨e, rfl, any⟩ := settles.error bad
      exact .stopped fine bad (any β)

theorem of_error {e : FetchError} (concludes : Concludes c talk (.error e : Except FetchError α)) :
    Concludes c talk (.error e : Except FetchError β) := by
  generalize same : (Except.error e : Except FetchError α) = result at concludes
  cases concludes with
  | told a fine => cases same
  | stopped fine bad settles =>
      obtain ⟨e, failed, any⟩ := settles.error bad
      cases same.trans failed
      exact .stopped fine bad (any β)

end Concludes

def question (part : HttpRequest × HttpOutcome) : String × List (String × Value) := (part.1.path, part.1.params)

theorem inquire_concludes {endpoint : String} {params : List (String × Value)} {read : Value → Except FetchError α}
    {sought : Sought} (readBy : sought.ReadBy read) (addressed : c.Addressed endpoint params)
    (about : ∀ r : HttpRequest, r.path = c.path endpoint → soughtBy c r = sought) (x : Exchange σ) :
    ∃ part, question part = (c.path endpoint, params) ∧ x.Said [part] (inquire c endpoint params read x).2 ∧
      Concludes c [part] (inquire c endpoint params read x).1 := by
  obtain ⟨call, called, kind⟩ := addressed
  obtain ⟨path, same⟩ := Client.request_of_call called
  obtain ⟨y, run, said⟩ := inquire_called read called x
  rw [run]
  refine ⟨_, by rw [question, path, same], said, Settles.concludes ?_⟩
  rw [judge, about _ path]
  exact reading_settles readBy kind _

theorem gives_of_inquire {page : Nat} {tags : List Tag} {x y : Exchange σ}
    (addressed : c.Addressed "/tags" (pageParams page))
    (run : inquire c "/tags" (pageParams page) readPage x = (.ok tags, y)) :
    Gives c x.server page tags x.state y.state := by
  obtain ⟨call, called, -⟩ := addressed
  obtain ⟨z, run', said⟩ := inquire_called readPage called x
  obtain ⟨read, rfl⟩ := Prod.mk.inj (run'.symm.trans run)
  exact ⟨call, called, said.state_eq, read⟩

theorem tagsFrom_walks (limit page : Nat) (x : Exchange σ)
    (pages : ∀ k < limit, c.Addressed "/tags" (pageParams (page + k))) :
    ∃ talk, x.Said talk (tagsFrom c limit page x).2 ∧
      talk.map question = (List.range' page talk.length).map (fun k => (c.path "/tags", pageParams k)) ∧
      (Concludes c talk (tagsFrom c limit page x).1 ∨ Full c x.server limit page x.state ∧
        (tagsFrom c limit page x).1 = .error .endless ∧ ∀ part ∈ talk, judge c part = .fine) ∧
      ∀ tags, (tagsFrom c limit page x).1 = .ok tags →
        Serves c x.server page tags x.state (tagsFrom c limit page x).2.state := by
  induction limit generalizing page x with
  | zero => exact ⟨[], .refl x, rfl, .inr ⟨trivial, rfl, by simp⟩, fun _ same => by cases same⟩
  | succ limit ih =>
      have addressed : c.Addressed "/tags" (pageParams page) := pages 0 (Nat.succ_pos limit)
      obtain ⟨part, asked, said, concludes⟩ :=
        inquire_concludes tags_readBy addressed (fun r path => if_pos path) x
      rw [tagsFrom_succ]
      rcases run_cases (inquire c "/tags" (pageParams page) readPage) x with ⟨tags, y, run⟩ | ⟨e, y, run⟩
      · have given := gives_of_inquire addressed run
        rw [run] at said concludes
        rw [bind_ok run]
        by_cases short : tags.length < pageSize
        · rw [if_pos short]
          refine ⟨[part], said, by simp [asked], .inl concludes, ?_⟩
          intro found same
          cases same
          exact .last given short
        · rw [if_neg short]
          have full := Nat.not_lt.mp short
          have first := concludes.fine_of_ok
          obtain ⟨talk, more, walked, stops, serves⟩ := ih (page + 1) y (fun k small => by
            have here := pages (k + 1) (Nat.succ_lt_succ small)
            rwa [Nat.add_assoc, Nat.add_comm 1 k])
          rw [said.server] at stops serves
          refine ⟨part :: talk, ?_, ?_, ?_, ?_⟩
          · rw [bind_pure_snd]
            exact said.trans more
          · simp [asked, walked, List.range'_succ]
          · rw [bind_pure_fst]
            rcases stops with stops | ⟨rest, endless, fine⟩
            · exact .inl ((stops.map _).after first)
            · refine .inr ⟨⟨tags, y.state, given, full, rest⟩, by rw [endless]; rfl, ?_⟩
              rintro other (_ | ⟨_, later⟩)
              · exact first part List.mem_cons_self
              · exact fine other later
          · intro found same
            rw [bind_pure_fst] at same
            rw [bind_pure_snd]
            cases rest : (tagsFrom c limit (page + 1) y).1 with
            | error e =>
                rw [rest] at same
                cases same
            | ok others =>
                rw [rest] at same
                cases same
                exact .more given full (serves others rest)
      · rw [run] at said concludes
        rw [bind_error run]
        refine ⟨[part], said, by simp [asked], .inl concludes.of_error, ?_⟩
        intro found same
        cases same

theorem tagsFrom_concludes (limit page : Nat) (x : Exchange σ)
    (pages : ∀ k < limit, c.Addressed "/tags" (pageParams (page + k))) (ends : ¬ Full c x.server limit page x.state) :
    ∃ talk, x.Said talk (tagsFrom c limit page x).2 ∧ Concludes c talk (tagsFrom c limit page x).1 ∧
      ∀ tags, (tagsFrom c limit page x).1 = .ok tags →
        Serves c x.server page tags x.state (tagsFrom c limit page x).2.state := by
  obtain ⟨talk, said, -, stops, serves⟩ := tagsFrom_walks limit page x pages
  exact ⟨talk, said, stops.resolve_right fun endless => ends endless.1, serves⟩

theorem soughtBy_commits {base : Option String} {head : Value} {r : HttpRequest}
    (path : r.path = c.path (commitsEndpoint base head)) : soughtBy c r = soughtCommits base := by
  have apart : commitsEndpoint base head ≠ "/tags" := by
    intro same
    have chars := congrArg String.toList same
    cases base <;> simp [commitsEndpoint] at chars
  rw [soughtBy, path, if_neg fun same => apart (path_injective same)]
  cases base with
  | none => exact if_pos rfl
  | some base =>
      refine if_neg fun same => ?_
      have chars := congrArg String.toList (path_injective same)
      simp [commitsEndpoint] at chars

theorem commits_concludes {base : Option String} {head : Value}
    (addressed : c.Addressed (commitsEndpoint base head) (commitsParams base head)) (x : Exchange σ) :
    ∃ part, x.Said [part] (commits c base head x).2 ∧ Concludes c [part] (commits c base head x).1 := by
  rw [commits_eq]
  obtain ⟨part, -, concludes⟩ :=
    inquire_concludes (commits_readBy base) addressed (fun r path => soughtBy_commits path) x
  exact ⟨part, concludes⟩

theorem changeLog_of_stopped {limit : Nat} {version : Value} {x y : Exchange σ} {e : FetchError}
    (named : isName version = true) (stopped : tagsFrom c limit 1 x = (.error e, y)) :
    changeLog c limit version x = (.error e, y) := by
  rw [changeLog, named]
  exact bind_error (bind_error stopped)

theorem changeLog_concludes {limit : Nat} {version : Value} {x : Exchange σ} (named : isName version = true)
    (pages : ∀ page, 0 < page → page ≤ limit → c.Addressed "/tags" (pageParams page))
    (ends : ¬ Full c x.server limit 1 x.state)
    (readable : ∀ tags s, Serves c x.server 1 tags x.state s → ∀ tag ∈ tags, Readable tag.name)
    (asked : ∀ tags s names, Serves c x.server 1 tags x.state s → versionTags tags = .ok names →
      c.Addressed (commitsEndpoint (range names c.branch version).2 (range names c.branch version).1)
        (commitsParams (range names c.branch version).2 (range names c.branch version).1)) :
    ∃ talk, x.Said talk (changeLog c limit version x).2 ∧ Concludes c talk (changeLog c limit version x).1 := by
  obtain ⟨talk, said, concludes, serves⟩ := tagsFrom_concludes limit 1 x
    (fun k small => pages (1 + k) (by omega) (by omega)) ends
  rcases run_cases (tagsFrom c limit 1) x with ⟨tags, y, run⟩ | ⟨e, y, run⟩
  · rw [run] at said concludes serves
    have served := serves tags rfl
    obtain ⟨names, listed⟩ : ∃ names, versionTags tags = .ok names :=
      ⟨_, versionTags_of_readable (readable tags y.state served)⟩
    have found : versions c limit x = (.ok names, y) := by
      rw [versions, Fetch.tags, bind_ok run, listed]
      rfl
    obtain ⟨z, silent, rest, result⟩ := changeLog_of_versions named found
    obtain ⟨part, last, stops⟩ := commits_concludes (asked tags y.state names served listed) z
    refine ⟨talk ++ [part], ?_, ?_⟩
    · have whole := (said.trans silent).trans (rest [part] last)
      rwa [List.append_nil] at whole
    · rw [result]
      exact (stops.map ChangeLog.render).after concludes.fine_of_ok
  · rw [run] at said concludes
    rw [changeLog_of_stopped named run]
    exact ⟨talk, said, concludes.of_error⟩

/-- Every failure is classified: either a change log is told, and all answers were fine, or the first bad outcome is the
last thing heard and its verdict alone decides the result. -/
theorem failures_classified {limit : Nat} {version : Value} {x : Exchange σ} (named : isName version = true)
    (pages : ∀ page, 0 < page → page ≤ limit → c.Addressed "/tags" (pageParams page))
    (ends : ¬ Full c x.server limit 1 x.state)
    (readable : ∀ tags s, Serves c x.server 1 tags x.state s → ∀ tag ∈ tags, Readable tag.name)
    (asked : ∀ tags s names, Serves c x.server 1 tags x.state s → versionTags tags = .ok names →
      c.Addressed (commitsEndpoint (range names c.branch version).2 (range names c.branch version).1)
        (commitsParams (range names c.branch version).2 (range names c.branch version).1)) :
    ∃ talk, x.Said talk (changeLog c limit version x).2 ∧
      ((∃ text, (changeLog c limit version x).1 = .ok text ∧ ∀ part ∈ talk, judge c part = .fine ∧
          ∃ status body, part.2 = .response status body ∧ status < 400) ∨
        ∃ before last, talk = before ++ [last] ∧ (∀ part ∈ before, judge c part = .fine) ∧ judge c last ≠ .fine ∧
          Settles (judge c last) (changeLog c limit version x).1) := by
  obtain ⟨talk, said, concludes⟩ := changeLog_concludes named pages ends readable asked
  refine ⟨talk, said, ?_⟩
  generalize (changeLog c limit version x).1 = result at concludes ⊢
  cases concludes with
  | told text fine => exact .inl ⟨text, rfl, fun part member => ⟨fine part member, status_of_fine (fine part member)⟩⟩
  | stopped fine bad settles => exact .inr ⟨_, _, rfl, fine, bad, settles⟩

/-! ## A refused comparison, and a body that is nested too deeply -/

def forbidden : HttpRequest → HttpOutcome := fun _ => .response 403 []

theorem versionTags_releases : versionTags releases = .ok ["v0.10.0", "0.9.0", "0.2.0"] := by
  have named : versionNames releases = ["0.2.0", "v0.10.0", "0.9.0"] := by decide
  obtain ⟨names, listed, perm, decreasing⟩ :=
    versionTags_decreasing releases_readable (by rw [named]; decide)
  have order : names = ["v0.10.0", "0.9.0", "0.2.0"] := by
    refine Version.eq_of_above (perm.trans ?_) decreasing (by decide)
    rw [named]
    decide
  rw [listed, order]

theorem releases_served : Serves Client.plainly (lister releases forbidden) 1 releases () () :=
  plainly_lister forbidden (by decide) (by decide)

theorem comparison_addressed : Client.plainly.Addressed "/compare/0.9.0...v0.10.0" [] :=
  Client.questions_addressed ("/compare/0.9.0...v0.10.0", []) (by simp [Client.questions])

theorem comparison_refused :
    (changeLog Client.plainly 1 (.text "0.10.0") ⟨lister releases forbidden, (), []⟩).1 =
      .error (.changeLog (.refused 403)) := by
  obtain ⟨z, _, server, -, -, -, result⟩ := changeLog_of_serves (x := ⟨lister releases forbidden, (), []⟩)
    (show isName (.text "0.10.0") = true from rfl) releases_served (show _ < 1 by decide) versionTags_releases
  obtain ⟨call, called, kind⟩ := comparison_addressed
  obtain ⟨y, run, -⟩ := inquire_called (readCommits (some "0.9.0")) called z
  have answer : z.server.answer call.request z.state = (.response 403 [], ()) := by
    rw [server]
    exact lister_other forbidden (by rw [(Client.request_of_call called).2]; rfl)
  rw [answer, Client.reading, if_pos kind] at run
  rw [result, commits_eq]
  exact congrArg (fun told => told.1.map ChangeLog.render) run

theorem refused_comparison_classified :
    let x : Exchange Unit := ⟨lister releases forbidden, (), []⟩
    (changeLog Client.plainly 1 (.text "0.10.0") x).1 = .error (.changeLog (.refused 403)) ∧
      ∃ before last, x.Said (before ++ [last]) (changeLog Client.plainly 1 (.text "0.10.0") x).2 ∧
        (∀ part ∈ before, judge Client.plainly part = .fine) ∧
        judge Client.plainly last = .reported .access (some 403) := by
  intro x
  have served : Serves Client.plainly x.server 1 releases () () := releases_served
  have refused := comparison_refused
  obtain ⟨talk, said, classified⟩ := failures_classified (x := x) (show isName (.text "0.10.0") = true from rfl)
    (fun page first last => plainly_pages first (Nat.le_succ_of_le last)) (served.not_full (by decide))
    (fun tags s other => (served.unique other).1 ▸ releases_readable) (by
      intro tags s names other listed
      obtain ⟨rfl, -⟩ := served.unique other
      obtain rfl := Except.ok.inj (versionTags_releases.symm.trans listed)
      exact comparison_addressed)
  refine ⟨refused, ?_⟩
  rw [refused] at classified
  rcases classified with ⟨text, told, -⟩ | ⟨before, last, rfl, fine, bad, settles⟩
  · cases told
  · refine ⟨before, last, said, fine, ?_⟩
    cases found : judge Client.plainly last with
    | fine => exact absurd found bad
    | reported family code =>
        rw [found] at settles
        obtain ⟨e, same, rfl, rfl⟩ := settles
        cases same
        rfl
    | deep =>
        rw [found] at settles
        obtain ⟨e, same⟩ := settles
        cases same
    | broken kind message =>
        rw [found] at settles
        cases settles

def nesting (more : List Char) : Server Unit where
  answer _ s :=
    (.response 200 (Utf8.bytes (String.ofList (List.replicate (Json.Limits.loose.depth + 1) '[' ++ more))), s)

theorem readResponse_nested (path : String) {more : List Char} (solid : Text.IsSolid more) :
    ∃ e, readResponse path 200
        (Utf8.bytes (String.ofList (List.replicate (Json.Limits.loose.depth + 1) '[' ++ more))) =
      .error (.tooDeep e) := by
  have brackets : Text.IsSolid (List.replicate Json.Limits.loose.depth '[') := .replicate _ (by decide)
  obtain ⟨e, parsed, problem⟩ := Json.parse_nested more
  have filled : List.replicate Json.Limits.loose.depth '[' ++ more ≠ [] := by
    apply List.ne_nil_of_length_pos
    rw [List.length_append, List.length_replicate]
    exact Nat.add_pos_left (by decide) _
  have decoded := Text.decodeBody_of_solid (.cons (by decide) (brackets.append solid)) filled
  refine ⟨e, ?_⟩
  rw [readResponse, List.replicate_succ, List.cons_append, decoded]
  rw [List.replicate_succ, List.cons_append] at parsed
  simp only [parsed, problem]
  rfl

/-- A body that is no JSON, but nested too deeply, is not reported as such. -/
theorem nested_body_escapes :
    ∃ e, (changeLog Client.plainly 1 (.text "1.0.0") ⟨nesting (List.replicate 2029 '['), (), []⟩).1 =
      .error (.tooDeep e) := by
  have solid : Text.IsSolid (List.replicate 2029 '[') := .replicate _ (by decide)
  obtain ⟨call, called, kind⟩ := plainly_pages Nat.one_pos (Nat.le_succ 1)
  obtain ⟨e, read⟩ := readResponse_nested (Client.plainly.path "/tags") solid
  obtain ⟨y, run, -⟩ := inquire_called readPage called ⟨nesting (List.replicate 2029 '['), (), []⟩
  have stopped : tagsFrom Client.plainly 1 1 ⟨nesting (List.replicate 2029 '['), (), []⟩ =
      (.error (.tooDeep e), y) := by
    rw [tagsFrom_succ]
    refine bind_error (run.trans ?_)
    rw [nesting, Client.reading, if_pos kind, read]
    rfl
  refine ⟨e, ?_⟩
  rw [changeLog_of_stopped rfl stopped]

end Fetch

end PluginKit
