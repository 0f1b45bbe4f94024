import PluginKit.Proofs.Release.Classification

/-!
Collecting tags page by page. If a server has a list of tags and answers every question for a page with that part of the
list, then all of them are collected, in their order, by one question for each full page and one more. An answer that is
no page of tags ends the collection, and the tags that came before it are not told.
-/

namespace PluginKit.Fetch

open Activity

variable {σ : Type} {c : Client} {items : List Value} {tags : List Tag} {limit before : Nat} {outcome : HttpOutcome}

/-- A server has a list, and answers a question for a page of tags with that part of it, whatever it was asked
before. -/
def Lists (c : Client) (server : Server σ) (items : List Value) : Prop :=
  ∀ r s page, r.path = c.path "/tags" → r.params = pageParams (page + 1) →
    (server.answer r s).1.Tells (.list ((items.drop (pageSize * page)).take pageSize))

/-- An answer that is no page of tags: it is rejected, its body is no JSON, or there is an item that is no tag. Bodies
that are nested too deeply to be read are not meant. -/
inductive Spoilt : HttpOutcome → Prop where
  | rejected {status : Int} {body : List UInt8} (high : 400 ≤ status) : Spoilt (.response status body)
  | undecoded {status : Int} {body : List UInt8} (failed : Text.decodeBody body = none) : Spoilt (.response status body)
  | unparsed {status : Int} {body : List UInt8} {text : String} {e : Json.Error}
      (decoded : Text.decodeBody body = some text) (failed : Json.parse text = .error e)
      (shallow : e.problem.isDeep = false) : Spoilt (.response status body)
  | closed {outcome : HttpOutcome} {v : Value} (told : outcome.Tells v) (closed : v.iterate? = none) : Spoilt outcome
  | unfit {outcome : HttpOutcome} {v item : Value} {items : List Value} (told : outcome.Tells v)
      (listed : v.iterate? = some items) (member : item ∈ items) (invalid : ∀ tag, Tag.ofValue item ≠ .valid tag) :
      Spoilt outcome

/-! ## Pages that are there -/

theorem tagsFrom_of_lists {x : Exchange σ} (lists : Lists c x.server items) (shaped : Shaped Tag.ofValue items tags)
    (pages : ∀ page, 0 < page → page ≤ tags.length / pageSize + 1 → c.Addressed "/tags" (pageParams page))
    (within : before ≤ tags.length / pageSize) (enough : tags.length / pageSize - before < limit) :
    ∃ y talk, tagsFrom c limit (before + 1) x = (.ok (tags.drop (pageSize * before)), y) ∧ x.Said talk y ∧
      talk.length = tags.length / pageSize - before + 1 := by
  have given : ∀ {x : Exchange σ} {page}, Lists c x.server items → page ≤ tags.length / pageSize →
      ∃ t, Gives c x.server (page + 1) ((tags.drop (pageSize * page)).take pageSize) x.state t := by
    intro x page lists inside
    apply gives_of_tells (pages (page + 1) (by omega) (by omega))
    · intro r path params
      exact lists r x.state page path params
    · exact List.forall₂_take _ (List.forall₂_drop _ shaped)
  have size : (tags.drop (pageSize * before)).length = tags.length - pageSize * before := List.length_drop
  obtain ⟨limit, rfl⟩ := Nat.exists_eq_succ_of_ne_zero (Nat.ne_zero_of_lt enough)
  -- The pages that are left are fewer each time.
  induction left : tags.length / pageSize - before generalizing before limit x with
  | zero =>
      obtain ⟨t, first⟩ := given lists within
      have short : (tags.drop (pageSize * before)).length < pageSize := by
        simp only [pageSize] at *
        omega
      rw [List.take_of_length_le short.le] at first
      obtain ⟨y, part, run, said, -⟩ := first.asked
      refine ⟨y, [part], ?_, said, rfl⟩
      rw [tagsFrom_succ, bind_ok run, if_pos short]
      rfl
  | succ left ih =>
      obtain ⟨t, first⟩ := given lists within
      have full : pageSize ≤ (tags.drop (pageSize * before)).length := by
        simp only [pageSize] at *
        omega
      obtain ⟨y, part, run, said, -⟩ := first.asked
      obtain ⟨limit, rfl⟩ := Nat.exists_eq_succ_of_ne_zero (show limit ≠ 0 by omega)
      obtain ⟨z, talk, rest, said', count⟩ :=
        ih (said.server ▸ lists) (show before + 1 ≤ _ by omega) List.length_drop limit (by omega) (by omega)
      refine ⟨z, part :: talk, ?_, said.trans said', by simp [count]⟩
      have whole : (tags.drop (pageSize * before)).take pageSize ++ tags.drop (pageSize * (before + 1)) =
          tags.drop (pageSize * before) := by
        rw [Nat.mul_succ, ← List.drop_drop, List.take_append_drop]
      rw [tagsFrom_succ, bind_ok run, if_neg (by simpa using full), bind_ok rest]
      exact congrArg (fun found => (Except.ok found, z)) whole

/-! ## Pages that are not -/

theorem verdict_of_tells {sought : Sought} {v : Value} (told : outcome.Tells v) :
    verdict sought outcome = if sought.fits v then .fine else .reported .general none := by
  obtain ⟨status, body, text, rfl, low, decoded, parsed⟩ := told
  have fine : ¬ (status = 401 ∨ status = 403) ∧ status ≠ 404 ∧ ¬ 400 ≤ status := by omega
  simp [verdict, fine, decoded, parsed]

theorem verdict_of_high {sought : Sought} {status : Int} {body : List UInt8} (high : 400 ≤ status) :
    ∃ family code, verdict sought (.response status body) = .reported family code := by
  simp only [verdict, high, if_true]
  split
  · exact ⟨_, _, rfl⟩
  · split <;> exact ⟨_, _, rfl⟩

theorem verdict_of_spoilt (spoilt : Spoilt outcome) : ∃ family code, verdict .tags outcome = .reported family code := by
  cases spoilt with
  | rejected high => exact verdict_of_high high
  | @undecoded status body failed =>
      by_cases high : 400 ≤ status
      · exact verdict_of_high high
      · have fine : ¬ (status = 401 ∨ status = 403) ∧ status ≠ 404 := by omega
        exact ⟨.general, some status, by simp [verdict, fine, high, failed]⟩
  | @unparsed status body text e decoded failed shallow =>
      by_cases high : 400 ≤ status
      · exact verdict_of_high high
      · have fine : ¬ (status = 401 ∨ status = 403) ∧ status ≠ 404 := by omega
        exact ⟨.general, some status, by simp [verdict, fine, high, decoded, failed, shallow]⟩
  | closed told closed => exact ⟨.general, none, by simp [verdict_of_tells told, Sought.fits, closed]⟩
  | @unfit _ v item items told listed member invalid =>
      have refused : (Tag.ofValue item).isValid = false := by
        cases checked : Tag.ofValue item with
        | valid tag => exact absurd checked (invalid tag)
        | invalid faults => rfl
      have misfit : Sought.tags.fits v = false := by
        simp only [Sought.fits, listed, Option.any_some, List.all_eq_false]
        exact ⟨item, member, by simp [refused]⟩
      exact ⟨.general, none, by simp [verdict_of_tells told, misfit]⟩

theorem Concludes.last_of_bad {α : Type} {talk : Talk} {result : Except FetchError α}
    {part : HttpRequest × HttpOutcome} (concludes : Concludes c talk result) (member : part ∈ talk)
    (bad : judge c part ≠ .fine) : talk.getLast? = some part ∧ Settles (judge c part) result := by
  cases concludes with
  | told a fine => exact absurd (fine part member) bad
  | stopped fine _ settles =>
      rcases List.mem_append.mp member with earlier | last
      · exact absurd (fine part earlier) bad
      · rw [List.mem_singleton.mp last]
        exact ⟨by simp, settles⟩

/-! ## All of them -/

/-- Tags are asked for page by page, and each page by its number and size. If a server has a list of tags, all of them are
told, in their order, after one question more than there are full pages. If an answer is no page of tags, it is the
last one and nothing is told but the error. -/
theorem tags_collected {x : Exchange σ}
    (pages : ∀ page, 0 < page → page ≤ limit → c.Addressed "/tags" (pageParams page)) :
    ∃ talk, x.Said talk (Fetch.tags c limit x).2 ∧
      talk.map question = (List.range' 1 talk.length).map (fun page => (c.path "/tags", pageParams page)) ∧
      (∀ items tags, Lists c x.server items → Shaped Tag.ofValue items tags → tags.length / pageSize < limit →
        (Fetch.tags c limit x).1 = .ok tags ∧ talk.length = tags.length / pageSize + 1) ∧
      ∀ part ∈ talk, Spoilt part.2 →
        talk.getLast? = some part ∧ ∃ e, (Fetch.tags c limit x).1 = .error (.changeLog e) := by
  obtain ⟨talk, said, walked, stops, -⟩ :=
    tagsFrom_walks limit 1 x fun k small => pages (1 + k) (by omega) (by omega)
  refine ⟨talk, said, walked, ?_, ?_⟩
  · intro items tags lists shaped enough
    obtain ⟨y, other, run, said', count⟩ := tagsFrom_of_lists lists shaped
      (fun page first last => pages page first (by omega)) (Nat.zero_le _) enough
    rw [Nat.mul_zero, List.drop_zero] at run
    rw [run] at said
    rw [Fetch.tags, run]
    exact ⟨rfl, by rw [said.unique said', count]; rfl⟩
  · intro part member spoilt
    have asked : question part ∈ talk.map question := List.mem_map_of_mem member
    rw [walked, List.mem_map] at asked
    obtain ⟨page, -, same⟩ := asked
    have about : soughtBy c part.1 = .tags := if_pos (Prod.mk.inj same).1.symm
    obtain ⟨family, code, reported⟩ := verdict_of_spoilt spoilt
    have bad : judge c part = .reported family code := by rw [judge, about, reported]
    rcases stops with concludes | ⟨-, -, fine⟩
    · obtain ⟨last, settles⟩ := concludes.last_of_bad member (by simp [bad])
      rw [bad] at settles
      obtain ⟨e, failed, -⟩ := settles
      exact ⟨last, e, failed⟩
    · rw [fine part member] at bad
      cases bad

/-! ## A full page before an empty one, and before a body that is nested too deeply -/

def hundred : List Tag := List.replicate 100 ⟨"nightly", "c0ffee"⟩

theorem hundred_plain : ∀ tag ∈ hundred, tag.Plain := by
  intro tag member
  rw [(List.mem_replicate.mp member).2]
  decide

theorem lists_lister (other : HttpRequest → HttpOutcome) (plain : ∀ tag ∈ tags, tag.Plain) :
    Lists c (lister tags other) (tags.map Tag.toValue) := by
  intro r s page _ params
  rw [lister_page other params, ← List.map_drop, ← List.map_take, pageOf, Nat.add_sub_cancel]
  exact tells_page fun tag member => plain tag (List.mem_of_mem_drop (List.mem_of_mem_take member))

theorem hundred_tags_collected :
    (Fetch.tags Client.plainly 2 ⟨lister hundred gone, (), []⟩).1 = .ok hundred ∧
      ∃ talk : Talk, (Fetch.tags Client.plainly 2 ⟨lister hundred gone, (), []⟩).2.requests = talk.map Prod.fst ∧
        talk.map question = [1, 2].map fun page => (Client.plainly.path "/tags", pageParams page) := by
  have pages : ∀ page, 0 < page → page ≤ 2 → Client.plainly.Addressed "/tags" (pageParams page) :=
    fun page => plainly_pages
  obtain ⟨talk, said, walked, told, -⟩ := tags_collected (x := ⟨lister hundred gone, (), []⟩) pages
  obtain ⟨found, count⟩ := told _ hundred (lists_lister gone hundred_plain) (shaped_tags hundred) (by decide)
  rw [count] at walked
  exact ⟨found, talk, said.requests, walked⟩

def breaking (more : List Char) : Server Unit where
  answer r s := match r.params.lookup "page" with
    | some (.int 1) => (.response 200 (pageBody hundred), s)
    | _ => (nesting more).answer r s

theorem breaking_first (more : List Char) {r : HttpRequest} (params : r.params = pageParams 1) :
    (breaking more).answer r () = (.response 200 (pageBody hundred), ()) := by
  have found : r.params.lookup "page" = some (.int 1) := by
    rw [params]
    rfl
  simp [breaking, found]

theorem breaking_second (more : List Char) {r : HttpRequest} (params : r.params = pageParams 2) :
    (breaking more).answer r () = (nesting more).answer r () := by
  have found : r.params.lookup "page" = some (.int 2) := by
    rw [params]
    rfl
  simp [breaking, found]

theorem tags_of_breaking {more : List Char} (solid : Text.IsSolid more) :
    ∃ e, (Fetch.tags Client.plainly 2 ⟨breaking more, (), []⟩).1 = .error (.tooDeep e) := by
  have told : ∀ r, r.path = Client.plainly.path "/tags" → r.params = pageParams 1 →
      ((breaking more).answer r ()).1.Tells (.list (hundred.map Tag.toValue)) := by
    intro r _ params
    rw [breaking_first more params]
    exact tells_page hundred_plain
  obtain ⟨t, given⟩ := gives_of_tells (plainly_pages Nat.one_pos (Nat.le_succ 1)) told (shaped_tags hundred)
  obtain ⟨y, part, run, said, -⟩ := Gives.asked (x := ⟨breaking more, (), []⟩) given
  obtain ⟨call, called, kind⟩ := plainly_pages Nat.two_pos le_rfl
  obtain ⟨e, failed⟩ := readResponse_nested (Client.plainly.path "/tags") solid
  obtain ⟨z, run', -⟩ := inquire_called readPage called y
  rw [said.server, breaking_second more (Client.request_of_call called).2, nesting, Client.reading, if_pos kind,
    failed] at run'
  have stopped : tagsFrom Client.plainly 1 2 y = (.error (.tooDeep e), z) := by
    rw [tagsFrom_succ]
    exact bind_error run'
  refine ⟨e, ?_⟩
  rw [Fetch.tags, tagsFrom_succ, bind_ok run, if_neg (by decide)]
  exact congrArg Prod.fst (bind_error stopped)

/-- The second page is no JSON, but that is not what is reported. -/
theorem nested_page_escapes :
    let x : Exchange Unit := ⟨breaking (List.replicate 2029 '['), (), []⟩
    (∀ r v, r.params = pageParams 2 → ¬ (x.server.answer r x.state).1.Tells v) ∧
      ∃ e, (Fetch.tags Client.plainly 2 x).1 = .error (.tooDeep e) := by
  have solid : Text.IsSolid (List.replicate 2029 '[') := .replicate _ (by decide)
  refine ⟨fun r v params told => ?_, tags_of_breaking solid⟩
  obtain ⟨e, failed⟩ := readResponse_nested "" solid
  rw [breaking_second _ params] at told
  rw [readResponse_of_tells told] at failed
  cases failed

end PluginKit.Fetch
