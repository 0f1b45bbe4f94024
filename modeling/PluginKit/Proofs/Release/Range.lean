import PluginKit.Proofs.Release.Listing
import PluginKit.Proofs.Release.Versions

/-!
The range of a change log. Which commits are asked for follows from the versions that are tagged, so that two servers
whose tags name the same versions are asked for the same commits, and the change logs agree if the answers do.
-/

namespace PluginKit.Fetch

open Activity
open Version (ofName? Readable Above)

variable {σ τ : Type} {c : Client} {base : Option String} {head version : Value} {names : List String}
  {tags tags' : List Tag} {limit limit' : Nat}

def sent : Except FetchError Call → List HttpRequest
  | .ok call => [call.request]
  | .error _ => []

def commitsRequests (c : Client) (base : Option String) (head : Value) : List HttpRequest :=
  sent (c.call (commitsEndpoint base head) (commitsParams base head))

theorem unpaged_of_commitsRequests {r : HttpRequest} (asked : r ∈ commitsRequests c base head) :
    r.params.lookup "page" = none := by
  rw [commitsRequests] at asked
  cases called : c.call (commitsEndpoint base head) (commitsParams base head) with
  | error e =>
      rw [called] at asked
      cases asked
  | ok call =>
      rw [called] at asked
      rw [List.mem_singleton.mp asked, (Client.request_of_call called).2]
      cases base <;> rfl

theorem commits_said (c : Client) (base : Option String) (head : Value) (x : Exchange σ) :
    ∃ talk, x.Said talk (commits c base head x).2 ∧ talk.map Prod.fst = commitsRequests c base head := by
  rw [commits_eq, commitsRequests]
  cases called : c.call (commitsEndpoint base head) (commitsParams base head) with
  | error e =>
      obtain ⟨y, run, said⟩ := inquire_refused (readCommits base) called x
      exact ⟨[], by rwa [run], rfl⟩
  | ok call =>
      obtain ⟨y, run, said⟩ := inquire_called (readCommits base) called x
      exact ⟨_, by rwa [run], rfl⟩

theorem commits_congr {x : Exchange σ} {y : Exchange τ} (same : ∀ r ∈ commitsRequests c base head,
    (x.server.answer r x.state).1 = (y.server.answer r y.state).1) :
    (commits c base head x).1 = (commits c base head y).1 := by
  rw [commits_eq, commits_eq]
  rw [commitsRequests] at same
  cases called : c.call (commitsEndpoint base head) (commitsParams base head) with
  | error e =>
      obtain ⟨x', run, -⟩ := inquire_refused (readCommits base) called x
      obtain ⟨y', run', -⟩ := inquire_refused (readCommits base) called y
      rw [run, run']
  | ok call =>
      obtain ⟨x', run, -⟩ := inquire_called (readCommits base) called x
      obtain ⟨y', run', -⟩ := inquire_called (readCommits base) called y
      rw [run, run', same call.request (by rw [called]; exact List.mem_singleton_self _)]

theorem changeLog_of_versions {x y : Exchange σ} (named : isName version = true)
    (listed : versions c limit x = (.ok names, y)) :
    ∃ z, y.Said [] z ∧
      (∀ talk, z.Said talk (commits c (range names c.branch version).2 (range names c.branch version).1 z).2 →
        z.Said talk (changeLog c limit version x).2) ∧
      (changeLog c limit version x).1 =
        (commits c (range names c.branch version).2 (range names c.branch version).1 z).1.map ChangeLog.render := by
  obtain ⟨z, logged, silent⟩ := log_said ("Changelog for " ++ version.display ++ ": " ++
    (range names c.branch version).2.getD "None" ++ "..." ++ (range names c.branch version).1.display) y
  refine ⟨z, silent, ?_⟩
  have start : changeLog c limit version x = (do
      let found ← commits c (range names c.branch version).2 (range names c.branch version).1
      log ("Collected " ++ toString found.length ++ " commits for " ++ version.display)
      return ChangeLog.render found) z := by
    rw [changeLog, named]
    exact (bind_ok listed).trans (bind_ok logged)
  rcases run_cases (commits c (range names c.branch version).2 (range names c.branch version).1) z with
    ⟨found, w, run⟩ | ⟨e, w, run⟩
  · rw [start, bind_ok run, run]
    refine ⟨?_, rfl⟩
    intro talk said
    have last := said.trans (.record w ⟨logger, Log.debugLevel,
      "Collected " ++ toString found.length ++ " commits for " ++ version.display⟩)
    rwa [List.append_nil] at last
  · rw [start, bind_error run, run]
    exact ⟨fun _ said => said, rfl⟩

theorem changeLog_of_serves {x : Exchange σ} {s : σ} (named : isName version = true)
    (served : Serves c x.server 1 tags x.state s) (enough : tags.length / pageSize < limit)
    (listed : versionTags tags = .ok names) :
    ∃ z pages, z.server = x.server ∧ z.state = s ∧ OfTags c pages ∧
      (changeLog c limit version x).2.requests = x.requests ++ pages.map Prod.fst ++
        commitsRequests c (range names c.branch version).2 (range names c.branch version).1 ∧
      (changeLog c limit version x).1 =
        (commits c (range names c.branch version).2 (range names c.branch version).1 z).1.map ChangeLog.render := by
  obtain ⟨y, pages, run, said, rfl, about⟩ := versions_of_serves served enough listed
  obtain ⟨z, silent, rest, result⟩ := changeLog_of_versions named run
  obtain ⟨talk, last, asked⟩ := commits_said c (range names c.branch version).2 (range names c.branch version).1 z
  refine ⟨z, pages, silent.server.trans said.server, silent.state_nil, about, ?_, result⟩
  rw [(rest talk last).requests, asked, silent.requests, said.requests]
  simp

/-- Neither the order of the tags nor tags that name no version have a part in the range of a change log. -/
theorem order_of_tags_immaterial {x : Exchange σ} {y : Exchange τ} {s : σ} {t : τ}
    (served : Serves c x.server 1 tags x.state s) (served' : Serves c y.server 1 tags' y.state t)
    (enough : tags.length / pageSize < limit) (enough' : tags'.length / pageSize < limit')
    (same : (versionNames tags).Perm (versionNames tags'))
    (distinct : ((versionNames tags).filterMap ofName?).Nodup)
    (readable : ∀ tag ∈ tags, Readable tag.name) :
    ∃ names, names.Perm (versionNames tags) ∧ names.Pairwise Above ∧
      (versions c limit x).1 = .ok names ∧ (versions c limit' y).1 = .ok names ∧
      ∀ version, isName version = true →
        let asked := commitsRequests c (range names c.branch version).2 (range names c.branch version).1
        (∃ pages, OfTags c pages ∧
          (changeLog c limit version x).2.requests = x.requests ++ pages.map Prod.fst ++ asked) ∧
        (∃ pages, OfTags c pages ∧
          (changeLog c limit' version y).2.requests = y.requests ++ pages.map Prod.fst ++ asked) ∧
        ((∀ r ∈ asked, (x.server.answer r s).1 = (y.server.answer r t).1) →
          (changeLog c limit version x).1 = (changeLog c limit' version y).1) := by
  obtain ⟨names, listed, perm, decreasing⟩ := versionTags_decreasing readable distinct
  have listed' : versionTags tags' = .ok names := by rw [← versionTags_congr same readable distinct, listed]
  refine ⟨names, perm, decreasing, ?_, ?_, ?_⟩
  · obtain ⟨_, _, run, -⟩ := versions_of_serves served enough listed
    rw [run]
  · obtain ⟨_, _, run, -⟩ := versions_of_serves served' enough' listed'
    rw [run]
  · intro version named
    obtain ⟨z, pages, server, state, about, requests, result⟩ := changeLog_of_serves named served enough listed
    obtain ⟨w, pages', server', state', about', requests', result'⟩ :=
      changeLog_of_serves named served' enough' listed'
    refine ⟨⟨pages, about, requests⟩, ⟨pages', about', requests'⟩, ?_⟩
    intro answered
    rw [result, result', commits_congr]
    rwa [server, state, server', state']

/-! ## Tags between the versions, and a number that is too long -/

def gone : HttpRequest → HttpOutcome := fun _ => .response 404 []

def releases : List Tag := ["0.2.0", "latest", "v0.10.0", "0.9.0"].map fun name => ⟨name, "c0ffee"⟩

theorem releases_readable : ∀ tag ∈ releases, Readable tag.name :=
  fun tag member => Version.readable_of_short (by revert tag; decide)

def nightlies : List Tag :=
  ⟨"0.9.0", "c0ffee"⟩ :: List.replicate 99 ⟨"nightly", "c0ffee"⟩ ++ [⟨"v0.10.0", "c0ffee"⟩, ⟨"0.2.0", "c0ffee"⟩]

theorem plainly_pages {page : Nat} (first : 0 < page) (last : page ≤ 2) :
    Client.plainly.Addressed "/tags" (pageParams page) := by
  obtain rfl | rfl : page = 1 ∨ page = 2 := by omega
  · exact Client.questions_addressed ("/tags", pageParams 1) (by simp [Client.questions, pageParams, pageSize])
  · exact Client.questions_addressed ("/tags", pageParams 2) (by simp [Client.questions, pageParams, pageSize])

theorem plainly_lister {tags : List Tag} (other : HttpRequest → HttpOutcome) (plain : ∀ tag ∈ tags, tag.Plain)
    (few : tags.length < 200) : Serves Client.plainly (lister tags other) 1 tags () () := by
  refine serves_lister other plain fun page first last => plainly_pages first ?_
  simp only [pageSize] at last
  omega

theorem nightly_tags_immaterial :
    (versions Client.plainly 2 ⟨lister nightlies gone, (), []⟩).1 = .ok ["v0.10.0", "0.9.0", "0.2.0"] ∧
      (versions Client.plainly 1 ⟨lister releases gone, (), []⟩).1 = .ok ["v0.10.0", "0.9.0", "0.2.0"] ∧
      ∀ version, (changeLog Client.plainly 2 (.text version) ⟨lister nightlies gone, (), []⟩).1 =
        (changeLog Client.plainly 1 (.text version) ⟨lister releases gone, (), []⟩).1 := by
  have named : versionNames nightlies = ["0.9.0", "v0.10.0", "0.2.0"] := by decide
  have named' : versionNames releases = ["0.2.0", "v0.10.0", "0.9.0"] := by decide
  obtain ⟨names, perm, decreasing, listed, listed', logs⟩ := order_of_tags_immaterial
    (x := ⟨lister nightlies gone, (), []⟩) (y := ⟨lister releases gone, (), []⟩)
    (plainly_lister gone (by decide) (by decide)) (plainly_lister gone (by decide) (by decide))
    (show _ < 2 by decide) (show _ < 1 by decide) (by rw [named, named']; decide) (by rw [named]; decide)
    fun tag member => Version.readable_of_short (by revert tag; decide)
  have order : names = ["v0.10.0", "0.9.0", "0.2.0"] := by
    refine Version.eq_of_above (perm.trans ?_) decreasing (by decide)
    rw [named]
    decide
  subst order
  refine ⟨listed, listed', ?_⟩
  intro version
  refine (logs (.text version) rfl).2.2 ?_
  intro r asked
  have unpaged := unpaged_of_commitsRequests asked
  rw [lister_other gone unpaged, lister_other gone unpaged]

def numbered (run : List Char) : Tag := ⟨String.ofList ('1' :: '.' :: '0' :: '.' :: run), "c0ffee"⟩

theorem numbered_spelled {run : List Char} (filled : run ≠ []) (digits : ∀ d ∈ run, Text.isDigit d = true) :
    Version.Spelled (numbered run).name.toList ['1'] ['0'] run := by
  rw [numbered, String.toList_ofList]
  exact Version.spelled_first filled digits

theorem numbered_plain {run : List Char} (plain : Json.IsPlain run) : (numbered run).Plain := by
  refine ⟨?_, show Json.IsPlain "c0ffee".toList by decide⟩
  have start : Json.IsPlain ['1', '.', '0', '.'] := by decide
  intro c member
  rw [numbered, String.toList_ofList] at member
  exact (List.mem_append.mp (show c ∈ ['1', '.', '0', '.'] ++ run from member)).elim (start c) (plain c)

theorem versions_of_long {run : List Char} {x : Exchange σ} {s : σ} (digits : ∀ d ∈ run, Text.isDigit d = true)
    (long : Whole.digitLimit < run.length) (served : Serves c x.server 1 [numbered run] x.state s) :
    versionNames [numbered run] = [(numbered run).name] ∧
      (versions c 1 x).1 = .error (.version (.tooLong run.length)) := by
  have filled : run ≠ [] := List.ne_nil_of_length_pos (Nat.zero_lt_of_lt long)
  have spelled := numbered_spelled filled digits
  constructor
  · have named : ofName? (numbered run).name = some _ := Version.ofName?_eq_some.mpr ⟨_, _, _, spelled, rfl⟩
    simp [versionNames, named]
  · have refused : Version.ofTag (numbered run).name = .error (.tooLong run.length) :=
      Version.ofTag_of_long spelled (by decide) long
    obtain ⟨y, -, listed, -⟩ := tagsFrom_of_serves served (show _ < 1 by rw [List.length_singleton]; decide)
    rw [versions, Fetch.tags, bind_ok listed, versionTags, List.filterMapM_cons, refused]
    rfl

theorem long_number_not_listed :
    let tags := [numbered (List.replicate 4301 '1')]
    Serves Client.plainly (lister tags gone) 1 tags () () ∧ (versionNames tags).length = 1 ∧
      (versions Client.plainly 1 ⟨lister tags gone, (), []⟩).1 = .error (.version (.tooLong 4301)) := by
  intro tags
  have ones : ∀ d ∈ List.replicate 4301 '1', d = '1' := fun d member => (List.mem_replicate.mp member).2
  have served : Serves Client.plainly (lister tags gone) 1 tags () () := by
    refine plainly_lister gone ?_ (by decide)
    intro tag member
    rw [List.mem_singleton.mp member]
    refine numbered_plain fun c found => ?_
    rw [ones c found]
    rfl
  obtain ⟨named, refused⟩ := versions_of_long (x := ⟨lister tags gone, (), []⟩)
    (fun d member => by rw [ones d member]; decide) (by rw [List.length_replicate]; decide) served
  rw [List.length_replicate] at refused
  exact ⟨served, by rw [named]; rfl, refused⟩

end PluginKit.Fetch
