import PluginKit.Proofs.Release.Base
import PluginKit.Proofs.Release.Sections

/-!
The commits of a history that has no base. They are asked for once, and a server gives one page for a question. So all
of them are told if and only if they fit on a page, and of a longer history the change log has the first page alone.
-/

namespace PluginKit

namespace ChangeLog

open Text

variable {commits : List Commit} {commit : Commit}

theorem rows_line_infix (member : commit ∈ commits) (listed : Listed commit) :
    rows (line commit).toList <:+: rows (render commits).toList := by
  let s := chosen commit.summary
  have among : line commit ∈ linesOf s commits := by
    rw [linesOf_eq_entries]
    exact List.mem_map_of_mem (List.mem_filter.mpr ⟨member, by simp [listed, s]⟩)
  have listing : (linesOf s commits).map String.toList ≠ [] := by simp [List.ne_nil_of_mem among]
  let text := "### " ++ s.title ++ "\n\n" ++ String.intercalate "\n" (linesOf s commits)
  have filled : block? s commits = some text := by simpa [block?, text] using List.ne_nil_of_mem among
  have blocks : text ∈ Section.all.filterMap fun s => block? s commits :=
    List.mem_filterMap.mpr ⟨s, by cases s <;> decide, filled⟩
  have inner : rows (line commit).toList <:+: rows text.toList := by
    have cut : text.toList =
        heading s ++ '\n' :: ([] ++ '\n' :: ['\n'].intercalate ((linesOf s commits).map String.toList)) := by
      simp [text, heading, String.toList_intercalate]
    rw [cut, rows_append, rows_append, rows_intercalate listing]
    refine List.IsInfix.trans ?_ (List.suffix_append _ _).isInfix
    refine List.IsInfix.trans ?_ (List.suffix_append _ _).isInfix
    exact List.infix_flatMap_of_mem (List.mem_map_of_mem among) rows
  have cut : (render commits).toList =
      ['\n', '\n'].intercalate ((Section.all.filterMap fun s => block? s commits).map String.toList) := by
    simp [render, String.toList_intercalate]
  rw [cut, rows_paragraphs (by simpa using List.ne_nil_of_mem blocks)]
  exact inner.trans (infix_intercalate _ (List.mem_map_of_mem (List.mem_map_of_mem blocks)))

end ChangeLog

namespace Commit

open Json (Writes IsPlain writeText writeObject)

def Plain (commit : Commit) : Prop :=
  (IsPlain commit.sha.toList ∧ IsPlain commit.message.toList) ∧ commit.htmlUrl = none

instance (commit : Commit) : Decidable commit.Plain :=
  inferInstanceAs (Decidable ((IsPlain commit.sha.toList ∧ IsPlain commit.message.toList) ∧ commit.htmlUrl = none))

def write (commit : Commit) : List Char :=
  writeObject [("sha", writeText commit.sha), ("commit", writeObject [("message", writeText commit.message)])]

def toValue (commit : Commit) : Value :=
  .object [(.text "sha", .text commit.sha), (.text "commit", .object [(.text "message", .text commit.message)])]

theorem ofValue_toValue {commit : Commit} (plain : commit.Plain) : ofValue commit.toValue = .valid commit := by
  obtain ⟨sha, message, htmlUrl⟩ := commit
  obtain rfl : htmlUrl = none := plain.2
  rfl

theorem writes {commit : Commit} (plain : commit.Plain) : Writes .loose 1 commit.write commit.toValue :=
  writes_nested (by decide) ⟨by decide, by decide⟩ plain.1

end Commit

namespace Fetch

open Activity ChangeLog
open Version (ofName? Readable Above targets)

variable {σ : Type} {c : Client} {head : Value} {history : List Value} {found : List Commit} {tags : List Tag}
  {limit : Nat} {version name : String}

/-- A server tells the history of a head page by page, in pages of the size that is asked for; the first page is meant
if none is named. -/
def Recounts (c : Client) (server : Server σ) (head : Value) (history : List Value) : Prop :=
  ∀ r s (size page : Nat), r.path = c.path "/commits" → r.params.lookup "sha" = some head →
    r.params.lookup "per_page" = some (.int size) → (r.params.lookup "page").getD (.int 1) = .int (page + 1 : Nat) →
    (server.answer r s).1.Tells (.list ((history.drop (size * page)).take size))

theorem commits_of_recounts {x : Exchange σ} (recounts : Recounts c x.server head history)
    (shaped : Shaped Commit.ofValue history found)
    (addressed : c.Addressed (commitsEndpoint none head) (commitsParams none head)) :
    (commits c none head x).1 = .ok (found.take pageSize) := by
  obtain ⟨call, called, kind⟩ := addressed
  obtain ⟨path, params⟩ := Client.request_of_call called
  obtain ⟨y, run, -⟩ := inquire_called (readCommits none) called x
  have told := recounts call.request x.state pageSize 0 path (by rw [params]; rfl) (by rw [params]; rfl)
    (by rw [params]; rfl)
  rw [Nat.mul_zero, List.drop_zero] at told
  rw [commits_eq, run, Client.reading_of_tells told kind, Except.bind, readCommits,
    readItems_of_shaped (List.forall₂_take pageSize shaped)]
  rfl

/-! ## Releases without a base -/

def Oldest (tags : List Tag) (version name : String) : Prop :=
  name ∈ targets version ∧ ∃ before after, versionNames tags = before ++ name :: after ∧
    ∀ other ∈ before ++ after, Above other name

/-- There is no version to compare a release with: its own tag is the oldest one, or no version is tagged. -/
inductive Baseless (c : Client) (tags : List Tag) (version : String) : Value → Prop where
  | untagged (unversioned : versionNames tags = []) : Baseless c tags version c.branch
  | oldest {name : String} (oldest : Oldest tags version name) : Baseless c tags version (.text name)

theorem range_of_oldest (branch : Value) (oldest : Oldest tags version name) :
    range ((sorted ((versionNames tags).filterMap versioned)).map Prod.snd) branch (.text version) =
      (.text name, none) := by
  obtain ⟨target, before, after, listed, above⟩ := oldest
  have member : name ∈ versionNames tags := by simp [listed]
  obtain ⟨v, named⟩ := Option.isSome_iff_exists.mp (List.mem_filter.mp member).2
  have higher : ∀ other ∈ before ++ after, ∃ w, ofName? other = some w ∧ v.key < w.key := by
    intro other among
    obtain ⟨w, v', high, low, less⟩ := above other among
    rw [← Version.ofName?_eq_some] at high low
    obtain rfl := Option.some.inj (low.symm.trans named)
    exact ⟨w, high, less⟩
  have first : ∀ other ∈ before, other ∉ targets version := by
    intro other among also
    obtain ⟨w, high, less⟩ := higher other (List.mem_append_left _ among)
    have same := Version.ofName?_of_target also high
    rw [Version.ofName?_of_target target named] at same
    exact less.ne (congrArg Version.key (Option.some.inj same))
  have twins : after.filter (ofName? · = some v) = [] := by
    apply List.filter_eq_nil_iff.mpr
    intro other among same
    obtain ⟨w, high, less⟩ := higher other (List.mem_append_right _ among)
    rw [high] at same
    exact less.ne' (congrArg Version.key (by simpa using same))
  have lower : lowerTags tags v = [] := by
    apply List.filter_eq_nil_iff.mpr
    intro other among less
    obtain ⟨low, found⟩ := ofName?_of_sorted among
    rw [decide_eq_true_eq] at less
    by_cases own : other.2 = name
    · rw [own, named] at low
      obtain rfl := Option.some.inj low
      exact less.false
    · obtain ⟨w, high, more⟩ := higher other.2 (by simpa [listed, own] using found)
      obtain rfl := Option.some.inj (high.symm.trans low)
      exact less.asymm more
  rw [range_of_tagged branch listed named target first, twins, lower]
  rfl

theorem range_of_baseless (baseless : Baseless c tags version head) :
    range ((sorted ((versionNames tags).filterMap versioned)).map Prod.snd) c.branch (.text version) =
      (head, none) := by
  cases baseless with
  | untagged bare => simp [bare, sorted, range]
  | oldest oldest => exact range_of_oldest c.branch oldest

theorem changeLog_of_recounts {x : Exchange σ} {s : σ} (recounts : Recounts c x.server head history)
    (shaped : Shaped Commit.ofValue history found)
    (addressed : c.Addressed (commitsEndpoint none head) (commitsParams none head))
    (served : Serves c x.server 1 tags x.state s) (enough : tags.length / pageSize < limit)
    (readable : ∀ tag ∈ tags, Readable tag.name) (baseless : Baseless c tags version head) :
    (changeLog c limit (.text version) x).1 = .ok (render (found.take pageSize)) := by
  obtain ⟨z, -, server, -, -, -, result⟩ := changeLog_of_serves (show isName (.text version) = true from rfl) served
    enough (versionTags_of_readable readable)
  rw [range_of_baseless baseless, commits_of_recounts (server ▸ recounts) shaped addressed] at result
  exact result

/-- All commits of a history without a base are told if and only if they fit on a page. The change log is that of the
first page, so every commit that is to be listed is in it if there is no other page. -/
theorem history_told_iff {x : Exchange σ} (recounts : Recounts c x.server head history)
    (shaped : Shaped Commit.ofValue history found)
    (addressed : c.Addressed (commitsEndpoint none head) (commitsParams none head)) :
    (commits c none head x).1 = .ok (found.take pageSize) ∧
    ((commits c none head x).1 = .ok found ↔ found.length ≤ pageSize) ∧
    ∀ tags s limit version, Serves c x.server 1 tags x.state s → tags.length / pageSize < limit →
      (∀ tag ∈ tags, Readable tag.name) → Baseless c tags version head →
      (changeLog c limit (.text version) x).1 = .ok (render (found.take pageSize)) ∧
      (found.length ≤ pageSize → (changeLog c limit (.text version) x).1 = .ok (render found) ∧
        ∀ commit ∈ found, Listed commit → Text.rows (line commit).toList <:+: Text.rows (render found).toList) := by
  have told := commits_of_recounts recounts shaped addressed
  refine ⟨told, ?_, ?_⟩
  · rw [told, Except.ok.injEq, List.take_eq_self_iff]
  · intro tags s limit version served enough readable baseless
    have result := changeLog_of_recounts recounts shaped addressed served enough readable baseless
    refine ⟨result, fun fits => ⟨?_, fun commit member listed => rows_line_infix member listed⟩⟩
    rw [result, List.take_of_length_le fits]

/-! ## A server that tells a history -/

theorem shaped_commits (plain : ∀ commit ∈ found, commit.Plain) :
    Shaped Commit.ofValue (found.map Commit.toValue) found := by
  simpa [Shaped, List.forall₂_map_left_iff, List.forall₂_same] using
    fun commit member => Commit.ofValue_toValue (plain commit member)

theorem tells_commits (plain : ∀ commit ∈ found, commit.Plain) :
    (HttpOutcome.response 200 (listBody (found.map Commit.write))).Tells (.list (found.map Commit.toValue)) :=
  tells_listBody fun commit member => Commit.writes (plain commit member)

def partOf (history : List Commit) (params : List (String × Value)) : List Commit :=
  match params.lookup "per_page", (params.lookup "page").getD (.int 1) with
  | some (.int size), .int page => (history.drop (size.toNat * (page.toNat - 1))).take size.toNat
  | _, _ => []

def historian (tags : List Tag) (history : List Commit) : Server Unit where
  answer r s := match r.params.lookup "sha" with
    | none => (lister tags gone).answer r s
    | some _ => (.response 200 (listBody ((partOf history r.params).map Commit.write)), s)

theorem recounts_historian {history : List Commit} (plain : ∀ commit ∈ history, commit.Plain) :
    Recounts c (historian tags history) head (history.map Commit.toValue) := by
  intro r s size page _ sha perPage number
  have part : partOf history r.params = (history.drop (size * page)).take size := by
    rw [partOf, perPage, number]
    simp
  simp only [historian, sha, part, ← List.map_drop, ← List.map_take]
  refine tells_commits fun commit member => plain commit ?_
  exact List.mem_of_mem_drop (List.mem_of_mem_take member)

theorem serves_historian (history : List Commit) (plain : ∀ tag ∈ tags, tag.Plain) (few : tags.length < pageSize) :
    Serves Client.plainly (historian tags history) 1 tags () () := by
  have told : ∀ r, r.path = Client.plainly.path "/tags" → r.params = pageParams 1 →
      ((historian tags history).answer r ()).1.Tells (.list (tags.map Tag.toValue)) := by
    intro r _ params
    have free : r.params.lookup "sha" = none := by
      rw [params]
      rfl
    simp only [historian, free, lister_page gone params, pageOf, Nat.sub_self, Nat.mul_zero, List.drop_zero,
      List.take_of_length_le few.le]
    exact tells_page plain
  obtain ⟨_, given⟩ := gives_of_tells (plainly_pages Nat.one_pos (Nat.le_succ 1)) told (shaped_tags tags)
  exact .last given few

theorem oldest_release_told :
    let found : List Commit := [⟨"0123456789", "fix: a", none⟩, ⟨"fedcba98", "feat: b", none⟩]
    let x : Exchange Unit := ⟨historian releases found, (), []⟩
    (changeLog Client.plainly 1 (.text "0.2.0") x).1 = .ok (render found) ∧
      Text.rows (line ⟨"0123456789", "fix: a", none⟩).toList <:+: Text.rows (render found).toList := by
  intro found x
  have plain : ∀ commit ∈ found, commit.Plain := by decide
  have recounts : Recounts Client.plainly x.server (.text "0.2.0") _ := recounts_historian plain
  have told := history_told_iff recounts (shaped_commits plain)
    (Client.questions_addressed ("/commits", [("sha", .text "0.2.0"), ("per_page", .int 100)])
      (by simp [Client.questions]))
  have oldest : Oldest releases "0.2.0" "0.2.0" :=
    ⟨by decide, [], ["v0.10.0", "0.9.0"], by decide, by decide⟩
  obtain ⟨whole, each⟩ := (told.2.2 releases () 1 "0.2.0" (serves_historian found (by decide) (by decide)) (by decide)
    releases_readable (.oldest oldest)).2 (by decide)
  exact ⟨whole, each _ (by decide) (by decide)⟩

def longHistory : List Commit :=
  List.replicate 100 ⟨"c0ffee", "chore: more", none⟩ ++ [⟨"c0ffee", "feat: first", none⟩]

/-- Of a history that does not fit on a page, the first commit is neither told nor in the change log. -/
theorem first_commit_lost :
    let x : Exchange Unit := ⟨historian [] longHistory, (), []⟩
    Recounts Client.plainly x.server (.text "main") (longHistory.map Commit.toValue) ∧
      (commits Client.plainly none (.text "main") x).1 ≠ .ok longHistory ∧
      ∃ text, (changeLog Client.plainly 1 (.text "1.0.0") x).1 = .ok text ∧
        entries .features longHistory = ["* feat: first (c0ffee)"] ∧ recover .features text = [] := by
  intro x
  have plain : ∀ commit ∈ longHistory, commit.Plain := by
    simp only [longHistory, List.mem_append, List.mem_replicate, List.mem_singleton]
    rintro commit (⟨-, rfl⟩ | rfl) <;> decide
  have recounts : Recounts Client.plainly x.server (.text "main") _ := recounts_historian plain
  have addressed := Client.questions_addressed ("/commits", [("sha", .text "main"), ("per_page", .int 100)])
    (by simp [Client.questions])
  have told := commits_of_recounts recounts (shaped_commits plain) addressed
  have log : (changeLog Client.plainly 1 (.text "1.0.0") x).1 = _ := changeLog_of_recounts recounts
    (shaped_commits plain) addressed (serves_historian longHistory (by simp) (by decide)) Nat.one_pos (by simp)
    (.untagged rfl)
  have start : longHistory.take pageSize = List.replicate 100 ⟨"c0ffee", "chore: more", none⟩ :=
    List.take_left' List.length_replicate
  refine ⟨recounts, ?_, _, log, ?_, ?_⟩
  · rw [told]
    intro same
    have sizes := congrArg List.length (Except.ok.inj same)
    simp [longHistory, pageSize] at sizes
  · rw [entries, longHistory, List.filter_append, List.filter_replicate, if_neg (by decide)]
    decide
  · rw [start, recover_render (by simp), linesOf_eq_entries, entries, List.filter_replicate, if_neg (by decide)]
    rfl

end Fetch

end PluginKit
