import PluginKit.Proofs.Release.Range

/-!
The base of a tagged release. Version tags are listed from the highest to the lowest, and tags of one version in the
order of the tags. So what comes after a release in that list is a tag of the next lower version, unless another tag
of the release's own version comes after it among the tags.
-/

namespace PluginKit

namespace Version

def targets (version : String) : List String := [version, "v" ++ version]

theorem Spelled.unmarked {s major minor patch : List Char} (spelled : Spelled ('v' :: s) major minor patch) :
    Spelled s major minor patch := by
  obtain ⟨⟨mark, marked, tail, ends, shape⟩, digits⟩ := spelled
  refine ⟨⟨[], by simp, tail, ends, ?_⟩, digits⟩
  rcases List.mem_cons.mp marked with rfl | marked
  · -- Without a mark the name would start with a digit.
    obtain ⟨filled, all⟩ := digits major (by simp)
    obtain ⟨d, rest, rfl⟩ := List.exists_cons_of_ne_nil filled
    have first := all d List.mem_cons_self
    rw [← (List.cons.inj shape).1] at first
    exact absurd first (by decide)
  · rw [List.mem_singleton.mp marked] at shape
    exact (List.cons.inj shape).2

theorem ofName?_of_target {version name : String} {v : Version} (target : name ∈ targets version)
    (named : ofName? name = some v) : ofName? version = some v := by
  rcases List.mem_cons.mp target with rfl | target
  · exact named
  · rw [List.mem_singleton.mp target, ofName?_eq_some] at named
    obtain ⟨major, minor, patch, spelled, rfl⟩ := named
    rw [String.toList_append] at spelled
    exact ofName?_eq_some.mpr ⟨major, minor, patch, spelled.unmarked, rfl⟩

theorem above_iff_key {name lower : String} {v w : Version} (high : ofName? name = some v)
    (low : ofName? lower = some w) : Above name lower ↔ w.key < v.key := by
  constructor
  · rintro ⟨v', w', high', low', less⟩
    rw [← ofName?_eq_some] at high' low'
    obtain rfl := Option.some.inj (high.symm.trans high')
    obtain rfl := Option.some.inj (low.symm.trans low')
    exact less
  · exact fun less => ⟨v, w, ofName?_eq_some.mp high, ofName?_eq_some.mp low, less⟩

def NextLower (names : List String) (head : String) : Option String → Prop
  | none => ∀ name ∈ names, ¬ Above head name
  | some base => base ∈ names ∧ Above head base ∧ ∀ name ∈ names, Above head name → ¬ Above name base

end Version

namespace Fetch

open Version (ofName? Readable Above targets NextLower)

variable {σ : Type} {c : Client} {tags : List Tag} {limit : Nat} {version head : String} {before after : List String}
  {v : Version}

theorem split_ordered {found : List (Version × String)} (ordered : found.Pairwise fun a b => b.1.key ≤ a.1.key)
    (v : Version) :
    found = found.filter (v.key < ·.1.key) ++ (found.filter (·.1 = v) ++ found.filter (·.1.key < v.key)) := by
  induction found with
  | nil => rfl
  | cons a found ih =>
      obtain ⟨lower, ordered⟩ := List.pairwise_cons.mp ordered
      have unmet : ∀ {p : Version × String → Bool}, (∀ b ∈ found, p b = false) → found.filter p = [] :=
        fun rejected => List.filter_eq_nil_iff.mpr fun b member => by simp [rejected b member]
      rcases lt_trichotomy v.key a.1.key with above | level | below
      · have other : a.1 ≠ v := fun same => above.ne (by rw [same])
        rw [List.filter_cons_of_pos (by simpa using above), List.filter_cons_of_neg (by simpa using other),
          List.filter_cons_of_neg (by simpa using above.le), List.cons_append, ← ih ordered]
      · have same : a.1 = v := Version.key_injective level.symm
        have higher : found.filter (v.key < ·.1.key) = [] :=
          unmet fun b member => by simpa [same] using lower b member
        rw [List.filter_cons_of_neg (by simp [same]), List.filter_cons_of_pos (by simpa using same),
          List.filter_cons_of_neg (by simp [same]), higher, List.nil_append, List.cons_append]
        have rest := ih ordered
        rw [higher, List.nil_append] at rest
        rw [← rest]
      · have other : a.1 ≠ v := fun same => below.ne (by rw [same])
        have higher : found.filter (v.key < ·.1.key) = [] :=
          unmet fun b member => by simpa using (lower b member).trans below.le
        have level : found.filter (·.1 = v) = [] :=
          unmet fun b member => by simpa using fun same : b.1 = v => ((lower b member).trans_lt below).ne (by rw [same])
        have rest := ih ordered
        rw [higher, level, List.nil_append, List.nil_append] at rest
        rw [List.filter_cons_of_neg (by simpa using below.le), List.filter_cons_of_neg (by simpa using other),
          List.filter_cons_of_pos (by simpa using below), higher, level, List.nil_append, List.nil_append, ← rest]

def lowerTags (tags : List Tag) (v : Version) : List (Version × String) :=
  (sorted ((versionNames tags).filterMap versioned)).filter (·.1.key < v.key)

theorem ofName?_of_sorted {found : Version × String}
    (member : found ∈ sorted ((versionNames tags).filterMap versioned)) :
    ofName? found.2 = some found.1 ∧ found.2 ∈ versionNames tags := by
  obtain ⟨name, listed, versioned⟩ := List.mem_filterMap.mp ((sorted_perm _).mem_iff.mp member)
  obtain ⟨named, rfl⟩ := versioned_eq_some.mp versioned
  exact ⟨Version.ofName?_eq_some.mpr named, listed⟩

theorem mem_lowerTags {name : String} {w : Version} (listed : name ∈ versionNames tags) (named : ofName? name = some w)
    (below : w.key < v.key) : (w, name) ∈ lowerTags tags v := by
  refine List.mem_filter.mpr ⟨(sorted_perm _).mem_iff.mpr ?_, by simpa using below⟩
  exact List.mem_filterMap.mpr ⟨name, listed, by rw [versioned, named]; rfl⟩

theorem map_filter_versioned (names : List String) (v : Version) :
    ((names.filterMap versioned).filter (·.1 = v)).map Prod.snd = names.filter (ofName? · = some v) := by
  induction names with
  | nil => rfl
  | cons name names ih =>
      cases named : ofName? name with
      | none => simp [versioned, named, ← ih]
      | some w => by_cases same : w = v <;> simp [versioned, named, same, ← ih]

theorem range_of_tagged (branch : Value) (listed : versionNames tags = before ++ head :: after)
    (named : ofName? head = some v) (target : head ∈ targets version)
    (first : ∀ name ∈ before, name ∉ targets version) :
    range ((sorted ((versionNames tags).filterMap versioned)).map Prod.snd) branch (.text version) =
      (.text head, (after.filter (ofName? · = some v) ++ (lowerTags tags v).map Prod.snd).head?) := by
  let skip : String → Bool := fun name => Value.text? (.text version) != some name && name != "v" ++ version
  have skipped : ∀ {name}, name ∉ targets version → skip name = true := by
    intro name other
    simp only [targets, List.mem_cons, List.not_mem_nil, or_false, not_or] at other
    simp [skip, Value.text?, other.2, Ne.symm other.1]
  have stopped : skip head = false := by
    simp only [targets, List.mem_cons, List.not_mem_nil, or_false] at target
    rcases target with same | same <;> simp [skip, Value.text?, same]
  have release := Version.ofName?_of_target target named
  -- Above the release no tag is one of its names; among its own tags, those before the first are not.
  have higher : ∀ name ∈ ((sorted ((versionNames tags).filterMap versioned)).filter (v.key < ·.1.key)).map Prod.snd,
      skip name = true := by
    intro name member
    obtain ⟨found, among, rfl⟩ := List.mem_map.mp member
    obtain ⟨among, above⟩ := List.mem_filter.mp among
    refine skipped fun target => ?_
    have same := Version.ofName?_of_target target (ofName?_of_sorted among).1
    rw [release] at same
    rw [← Option.some.inj same] at above
    exact absurd above (by simp)
  have names : (sorted ((versionNames tags).filterMap versioned)).map Prod.snd =
      ((sorted ((versionNames tags).filterMap versioned)).filter (v.key < ·.1.key)).map Prod.snd ++
        (before.filter (ofName? · = some v) ++ head ::
          (after.filter (ofName? · = some v) ++ (lowerTags tags v).map Prod.snd)) := by
    conv_lhs => rw [split_ordered (sorted_ordered ((versionNames tags).filterMap versioned)) v]
    rw [List.map_append, List.map_append, filter_sorted, map_filter_versioned, listed, List.filter_append,
      List.filter_cons_of_pos (by simpa using named), List.append_assoc, List.cons_append, ← listed]
    rfl
  have dropped : (((sorted ((versionNames tags).filterMap versioned)).map Prod.snd).dropWhile fun name =>
      Value.text? (.text version) != some name && name != "v" ++ Value.display (.text version)) =
      head :: (after.filter (ofName? · = some v) ++ (lowerTags tags v).map Prod.snd) := by
    change List.dropWhile skip _ = _
    rw [names, List.dropWhile_append_of_pos higher,
      List.dropWhile_append_of_pos fun name member => skipped (first name (List.mem_of_mem_filter member)),
      List.dropWhile_cons_of_neg (by simp [stopped])]
  rw [range, dropped]

theorem nextLower_of_lowerTags (named : ofName? head = some v) :
    NextLower (versionNames tags) head ((lowerTags tags v).map Prod.snd).head? := by
  have below : ∀ {name}, name ∈ versionNames tags → Above head name →
      ∃ w, ofName? name = some w ∧ (w, name) ∈ lowerTags tags v := by
    rintro name listed above
    obtain ⟨-, w, -, low, -⟩ := id above
    rw [← Version.ofName?_eq_some] at low
    exact ⟨w, low, mem_lowerTags listed low ((Version.above_iff_key named low).mp above)⟩
  cases lower : lowerTags tags v with
  | nil =>
      intro name listed above
      obtain ⟨w, -, member⟩ := below listed above
      rw [lower] at member
      cases member
  | cons base rest =>
      have member : base ∈ lowerTags tags v := by rw [lower]; exact List.mem_cons_self
      obtain ⟨among, less⟩ := List.mem_filter.mp member
      obtain ⟨baseNamed, listed⟩ := ofName?_of_sorted among
      refine ⟨listed, (Version.above_iff_key named baseNamed).mpr (by simpa using less), ?_⟩
      intro name listed above
      obtain ⟨w, low, member⟩ := below listed above
      have ordered : (lowerTags tags v).Pairwise fun a b => b.1.key ≤ a.1.key := (sorted_ordered _).filter _
      rw [lower] at member ordered
      rw [Version.above_iff_key low baseNamed, not_lt]
      rcases List.mem_cons.mp member with same | later
      · rw [← same]
      · exact (List.pairwise_cons.mp ordered).1 (w, name) later

theorem nextLower_iff (named : ofName? head = some v) (after : List String) :
    NextLower (versionNames tags) head
        (after.filter (ofName? · = some v) ++ (lowerTags tags v).map Prod.snd).head? ↔
      ∀ name ∈ after, ofName? name ≠ some v := by
  cases twins : after.filter (ofName? · = some v) with
  | nil =>
      refine iff_of_true (nextLower_of_lowerTags named) fun name member same => ?_
      exact List.filter_eq_nil_iff.mp twins name member (by simpa using same)
  | cons twin rest =>
      have member : twin ∈ after.filter (ofName? · = some v) := by rw [twins]; exact List.mem_cons_self
      obtain ⟨among, same⟩ := List.mem_filter.mp member
      have same : ofName? twin = some v := by simpa using same
      refine iff_of_false ?_ fun apart => apart twin among same
      rintro ⟨-, above, -⟩
      exact lt_irrefl _ ((Version.above_iff_key named same).mp above)

/-- A release that is tagged is compared with the next lower version, or with nothing if no version is lower, exactly
if no other tag of its version follows the tag that was found for it. -/
theorem base_is_next_lower {x : Exchange σ} {s : σ} (served : Serves c x.server 1 tags x.state s)
    (enough : tags.length / pageSize < limit) (readable : ∀ tag ∈ tags, Readable tag.name)
    (tagged : ∃ name ∈ versionNames tags, name ∈ targets version) :
    ∃ names before head after base pages, (versions c limit x).1 = .ok names ∧
      versionNames tags = before ++ head :: after ∧ head ∈ targets version ∧
      (∀ name ∈ before, name ∉ targets version) ∧
      range names c.branch (.text version) = (.text head, base) ∧ OfTags c pages ∧
      (changeLog c limit (.text version) x).2.requests =
        x.requests ++ pages.map Prod.fst ++ commitsRequests c base (.text head) ∧
      (NextLower (versionNames tags) head base ↔ ∀ name ∈ after, ofName? name ≠ ofName? head) := by
  obtain ⟨found, among, target⟩ := tagged
  obtain ⟨head, first⟩ : ∃ head, (versionNames tags).find? (· ∈ targets version) = some head := by
    rw [← Option.isSome_iff_exists, List.find?_isSome]
    exact ⟨found, among, by simpa using target⟩
  obtain ⟨target, before, after, listed, others⟩ := List.find?_eq_some_iff_append.mp first
  have member : head ∈ versionNames tags := by rw [listed]; simp
  obtain ⟨v, named⟩ := Option.isSome_iff_exists.mp (List.mem_filter.mp member).2
  have target : head ∈ targets version := by simpa using target
  have others : ∀ name ∈ before, name ∉ targets version := fun name member => by simpa using others name member
  have ranged := range_of_tagged c.branch listed named target others
  obtain ⟨z, pages, -, -, about, requests, -⟩ :=
    changeLog_of_serves (show isName (.text version) = true from rfl) served enough (versionTags_of_readable readable)
  obtain ⟨y, -, run, -⟩ := versions_of_serves served enough (versionTags_of_readable readable)
  rw [ranged] at requests
  refine ⟨_, before, head, after, _, pages, by rw [run], listed, target, others, ranged, about, requests, ?_⟩
  rw [named]
  exact nextLower_iff named after

theorem release_compared_with_next_lower : ∃ names,
    (versions Client.plainly 1 ⟨lister releases gone, (), []⟩).1 = .ok names ∧
      range names Client.plainly.branch (.text "0.10.0") = (.text "v0.10.0", some "0.9.0") := by
  have listed : versionNames releases = ["0.2.0", "v0.10.0", "0.9.0"] := by decide
  obtain ⟨names, before, head, after, base, -, found, split, target, first, ranged, -, -, lower⟩ :=
    base_is_next_lower (x := ⟨lister releases gone, (), []⟩) (plainly_lister gone (by decide) (by decide))
      (show _ < 1 by decide) releases_readable ⟨"v0.10.0", by decide, (by decide : _ ∈ targets "0.10.0")⟩
  rw [listed] at split lower
  -- Only the second name is one of the release's.
  obtain ⟨rfl, rfl, rfl⟩ : before = ["0.2.0"] ∧ head = "v0.10.0" ∧ after = ["0.9.0"] := by
    rcases before with _ | ⟨a, _ | ⟨b, _ | ⟨d, rest⟩⟩⟩
    · cases split
      exact absurd target (by decide)
    · cases split
      exact ⟨rfl, rfl, rfl⟩
    · cases split
      exact absurd target (by decide)
    · simp at split
  refine ⟨names, found, ?_⟩
  have next := lower.mpr (by decide)
  cases base with
  | none => exact absurd (show Above "v0.10.0" "0.9.0" by decide) (next _ (by decide))
  | some base =>
      obtain ⟨member, above, between⟩ := next
      simp only [List.mem_cons, List.not_mem_nil, or_false] at member
      rcases member with rfl | rfl | rfl
      · exact absurd (show Above "0.9.0" "0.2.0" by decide) (between _ (by decide) (by decide))
      · exact absurd above (by decide)
      · exact ranged

def twins : List Tag := ["1.0.0", "v1.0.0", "0.9.0"].map fun name => ⟨name, "c0ffee"⟩

/-- A release that is tagged twice is compared with itself, although a lower version is tagged. -/
theorem release_compared_with_itself : ∃ names,
    (versions Client.plainly 1 ⟨lister twins gone, (), []⟩).1 = .ok names ∧
      range names Client.plainly.branch (.text "1.0.0") = (.text "1.0.0", some "v1.0.0") ∧
      ¬ NextLower (versionNames twins) "1.0.0" (some "v1.0.0") ∧
      NextLower (versionNames twins) "1.0.0" (some "0.9.0") := by
  have readable : ∀ tag ∈ twins, Readable tag.name :=
    fun tag member => Version.readable_of_short (by revert tag; decide)
  have served : Serves Client.plainly (lister twins gone) 1 twins () () :=
    plainly_lister gone (by decide) (by decide)
  have listed : versionNames twins = [] ++ "1.0.0" :: ["v1.0.0", "0.9.0"] := by decide
  have named : ofName? "1.0.0" = some ⟨1, 0, 0⟩ := by decide
  have ranged := range_of_tagged Client.plainly.branch listed named (by decide : _ ∈ targets "1.0.0") (by decide)
  have again : ["v1.0.0", "0.9.0"].filter (ofName? · = some ⟨1, 0, 0⟩) = ["v1.0.0"] := by decide
  rw [again] at ranged
  obtain ⟨y, -, run, -⟩ := versions_of_serves (x := ⟨lister twins gone, (), []⟩) served (show _ < 1 by decide)
    (versionTags_of_readable readable)
  refine ⟨_, by rw [run], ranged, ?_, ?_⟩
  · rintro ⟨-, above, -⟩
    exact absurd above (by decide)
  · exact ⟨by decide, by decide, by decide⟩

end Fetch

end PluginKit
