import PluginKit.Proofs.Release.Naming
import PluginKit.Proofs.Release.Sections
import PluginKit.Proofs.Text.Trimming

/-!
What a commit says first, and where that puts it in a change log. The summary is the first line of the message with more
than blanks in it. Its section follows from a small grammar, in which a summary with a kind never names a version.
-/

namespace PluginKit

namespace Commit

open Text

theorem summaryOf_eq_trim_takeWhile (message : List Char) :
    summaryOf message = trim ((trim message).takeWhile fun c => !isLineEnd c) := by
  have first := (cut_lines (trim message)).headD_eq
  rw [← first, summaryOf]
  cases lines (trim message) <;> rfl

theorem summaryOf_eq_trim_firstText (message : List Char) : summaryOf message = trim (firstText message) :=
  calc summaryOf message
    _ = trim ((trimEnd (trimStart message)).takeWhile fun c => !isLineEnd c) := summaryOf_eq_trim_takeWhile message
    _ = trim ((trimStart message).takeWhile fun c => !isLineEnd c) := trim_takeWhile_trimEnd _ _
    _ = trim (firstText (trimStart message)) := by rw [firstText_of_tight (trimStart_tight message)]
    _ = trim (firstText message) := trim_firstText_trimStart message

theorem summaryOf_eq_nil_iff {message : List Char} : summaryOf message = [] ↔ AllBlank message := by
  have start : trimStart message = [] ↔ AllBlank message := List.dropWhile_eq_nil_iff
  rw [summaryOf_eq_trim_firstText, ← trim_firstText_trimStart, trim_eq_nil_iff, ← start]
  have tight := trimStart_tight message
  rw [firstText_of_tight tight]
  cases started : trimStart message with
  | nil => simp [AllBlank]
  | cons c rest =>
      rw [started] at tight
      have text : isBlank c = false := tight c rfl
      have inside := isLineEnd_of_not_isBlank text
      simp [AllBlank, inside, text]

theorem summaryOf_eq_self {s : List Char} (plain : ∀ c ∈ s, isBlank c = false) : summaryOf s = s := by
  have tight : Tight s := ⟨fun c first => plain c (List.mem_of_mem_head? first),
    fun c last => plain c (List.mem_of_mem_getLast? last)⟩
  have whole : s.takeWhile (fun c => !isLineEnd c) = s := List.takeWhile_eq_self_iff.mpr fun c member => by
    rw [isLineEnd_of_not_isBlank (plain c member)]
    rfl
  rw [summaryOf_eq_trim_takeWhile, trim_of_tight tight, whole, trim_of_tight tight]

/-- A summary is the first line of the message that has more than blanks in it, without the blanks around it. It is
empty if and only if the message has nothing but blanks, it has no line end in it and no blank at either end. -/
theorem summary_is_first_line_with_text (c : Commit) :
    (∀ rows, Cut c.message.toList rows ↔ rows = lines c.message.toList) ∧
    (∀ core, Trimmed (((lines c.message.toList).find? hasText).getD []) core ↔ core = c.summary.toList) ∧
    (c.summary = "" ↔ AllBlank c.message.toList) ∧
    (∀ d ∈ c.summary.toList, isLineEnd d = false) ∧
    Tight c.summary.toList := by
  have trimmed := trim_trimmed (firstText c.message.toList)
  have summary : c.summary.toList = trim (firstText c.message.toList) := by
    rw [Commit.summary, String.toList_ofList, summaryOf_eq_trim_firstText]
  refine ⟨fun rows => ⟨Cut.eq_lines, ?_⟩, fun core => ⟨?_, ?_⟩, ?_, ?_, ?_⟩
  · intro same
    rw [same]
    exact cut_lines _
  · intro other
    rw [summary]
    exact other.eq_trim
  · intro same
    rw [same, summary]
    exact trimmed
  · rw [← String.toList_eq_nil_iff, Commit.summary, String.toList_ofList, summaryOf_eq_nil_iff]
  · rw [Commit.summary, String.toList_ofList]
    exact summaryOf_unbroken _
  · rw [summary]
    exact trimmed.tight

example : (Commit.mk "" "\r\n \u2028\tfix: a \x1fb\u3000\x85c\n" none).summary = "fix: a \x1fb" := by decide

end Commit

namespace ChangeLog

open Text

/-! ## Conventional summaries -/

/-- No scope, or one in parentheses, which ends where the first of them is closed. -/
def IsScope (s : List Char) : Prop := s = [] ∨ ∃ name, ')' ∉ name ∧ s = '(' :: (name ++ [')'])

structure Conventional (summary kind scope mark rest : List Char) : Prop where
  whole : summary = kind ++ (scope ++ (mark ++ ':' :: rest))
  kind : kind = summary.takeWhile Char.isAlpha
  scope : IsScope scope
  mark : mark ∈ [[], ['!']]

def OfKind (word : String) (summary : List Char) : Prop :=
  ∃ kind scope mark rest, Conventional summary kind scope mark rest ∧ kind.map Char.toLower = word.toList

theorem isAsciiLetter_eq : isAsciiLetter = Char.isAlpha := by
  funext c
  have alpha : c.isAlpha = (c.isUpper || c.isLower) := rfl
  have upper : c.isUpper = decide ('A' ≤ c ∧ c ≤ 'Z') := rfl
  have lower : c.isLower = (decide ('a' ≤ c) && decide (c ≤ 'z')) := rfl
  rw [isAsciiLetter, alpha, upper, lower, Bool.or_comm, Bool.decide_and]

theorem toLower_eq : toLower = Char.toLower := by
  funext c
  unfold toLower Char.toLower
  by_cases capital : c.val ≥ 'A'.val ∧ c.val ≤ 'Z'.val
  · have bounds : 65 ≤ c.toNat ∧ c.toNat ≤ 90 := by
      simpa [UInt32.le_iff_toNat_le] using capital
    have scalar : isSurrogate (c.toNat + 32) = false := by
      simp [isSurrogate]
      omega
    rw [dif_pos capital, if_pos (by simpa [Char.le_def] using capital)]
    apply Char.toNat_inj.mp
    rw [toNat_ofNat (by omega) scalar]
    change c.toNat + 32 = (c.val + 32).toNat
    rw [UInt32.toNat_add, Nat.mod_eq_of_lt]
    · rfl
    · change c.toNat + 32 < 2 ^ 32
      omega
  · rw [dif_neg capital, if_neg (by simpa [Char.le_def] using capital)]

theorem dropWhile_closing {name : List Char} (unclosed : ')' ∉ name) (rest : List Char) :
    (name ++ ')' :: rest).dropWhile (· != ')') = ')' :: rest := by
  rw [List.dropWhile_append_of_pos, List.dropWhile_cons_of_neg (by simp)]
  intro c member
  simpa using fun same : c = ')' => unclosed (same ▸ member)

theorem withoutScope_append {scope rest : List Char} (within : IsScope scope) (apart : rest.head? ≠ some '(') :
    withoutScope (scope ++ rest) = rest := by
  rcases within with rfl | ⟨name, inside, rfl⟩
  · cases rest with
    | nil => rfl
    | cons c rest =>
        rw [List.nil_append, withoutScope]
        rintro more same
        cases same
        exact apart rfl
  · rw [List.cons_append, List.append_assoc, List.singleton_append, withoutScope]
    simp only [dropWhile_closing inside]

theorem withoutScope_cases (s : List Char) : ∃ scope, IsScope scope ∧ s = scope ++ withoutScope s := by
  unfold withoutScope
  split
  · rename_i rest
    split
    · rename_i after found
      refine ⟨'(' :: (rest.takeWhile (· != ')') ++ [')']), .inr ⟨_, ?_, rfl⟩, ?_⟩
      · intro member
        simpa using List.mem_takeWhile_imp member
      · rw [List.cons_append, List.append_assoc, List.singleton_append, ← found, List.takeWhile_append_dropWhile]
    · exact ⟨[], .inl rfl, rfl⟩
  · exact ⟨[], .inl rfl, rfl⟩

theorem withoutBang_append {mark : List Char} (marked : mark ∈ [[], ['!']]) (rest : List Char) :
    withoutBang (mark ++ ':' :: rest) = ':' :: rest := by
  rcases List.mem_cons.mp marked with rfl | marked
  · rfl
  · rw [List.mem_singleton.mp marked]
    rfl

theorem withoutBang_cases (s : List Char) : ∃ mark ∈ [[], ['!']], s = mark ++ withoutBang s := by
  unfold withoutBang
  split
  · exact ⟨['!'], by simp, rfl⟩
  · exact ⟨[], by simp, rfl⟩

theorem head?_mark {mark : List Char} (marked : mark ∈ [[], ['!']]) (rest : List Char) :
    (mark ++ ':' :: rest).head? ≠ some '(' := by
  rcases List.mem_cons.mp marked with rfl | marked
  · simp
  · rw [List.mem_singleton.mp marked]
    simp

theorem conventionalKind?_eq_some {summary word : List Char} : conventionalKind? summary = some word ↔
    ∃ kind scope mark rest, Conventional summary kind scope mark rest ∧ kind ≠ [] ∧ kind.map Char.toLower = word := by
  rw [conventionalKind?, isAsciiLetter_eq, toLower_eq]
  constructor
  · intro found
    split at found
    · rename_i rest colon
      split at found
      · cases found
      · rename_i named
        cases found
        -- What the two steps leave is the colon, so what they took is the scope and the mark.
        obtain ⟨scope, within, start⟩ := withoutScope_cases (summary.dropWhile Char.isAlpha)
        obtain ⟨mark, marked, next⟩ := withoutBang_cases (withoutScope (summary.dropWhile Char.isAlpha))
        refine ⟨_, scope, mark, rest, ⟨?_, rfl, within, marked⟩, by simpa using named, rfl⟩
        rw [← colon, ← next, ← start, List.takeWhile_append_dropWhile]
    · cases found
  · rintro ⟨kind, scope, mark, rest, parts, named, rfl⟩
    -- The letters end where the kind does, so the rest is the same whichever way the summary is read.
    have after : summary.dropWhile Char.isAlpha = scope ++ (mark ++ ':' :: rest) := by
      have both := (List.takeWhile_append_dropWhile (p := Char.isAlpha)).trans parts.whole
      rw [← parts.kind] at both
      exact List.append_cancel_left both
    rw [← parts.kind, after, withoutScope_append parts.scope (head?_mark parts.mark rest),
      withoutBang_append parts.mark]
    simp [named]

theorem ofKind_iff {word : String} (filled : word.toList ≠ []) {summary : List Char} :
    OfKind word summary ↔ conventionalKind? summary = some word.toList := by
  rw [conventionalKind?_eq_some]
  constructor
  · rintro ⟨kind, scope, mark, rest, parts, same⟩
    refine ⟨kind, scope, mark, rest, parts, ?_, same⟩
    rintro rfl
    exact filled same.symm
  · rintro ⟨kind, scope, mark, rest, parts, -, same⟩
    exact ⟨kind, scope, mark, rest, parts, same⟩

theorem OfKind.colon_mem {word : String} {summary : List Char} (kind : OfKind word summary) : ':' ∈ summary := by
  obtain ⟨kind, scope, mark, rest, parts, -⟩ := kind
  rw [parts.whole]
  simp

/-! ## Summaries that name versions -/

structure Bare (s major minor patch : List Char) : Prop where
  spelling : ∃ mark ∈ [[], ['v']], s = mark ++ (major ++ '.' :: (minor ++ '.' :: patch))
  digits : ∀ run ∈ [major, minor, patch], run ≠ [] ∧ ∀ d ∈ run, isDigit d = true

variable {text major minor patch : List Char}

theorem bare_iff_spelled (whole : '\n' ∉ text) :
    Bare text major minor patch ↔ Version.Spelled text major minor patch := by
  constructor
  · rintro ⟨⟨mark, marked, rfl⟩, digits⟩
    exact ⟨⟨mark, marked, [], by simp, by simp⟩, digits⟩
  · rintro ⟨⟨mark, marked, tail, ends, rfl⟩, digits⟩
    rcases List.mem_cons.mp ends with rfl | ends
    · exact ⟨⟨mark, marked, by simp⟩, digits⟩
    · rw [List.mem_singleton.mp ends] at whole
      simp at whole

theorem colon_not_mem_of_bare (bare : Bare text major minor patch) : ':' ∉ text := by
  obtain ⟨⟨mark, marked, rfl⟩, digits⟩ := bare
  have apart : ∀ run ∈ [major, minor, patch], ':' ∉ run := by
    intro run member colon
    exact absurd ((digits run member).2 _ colon) (by decide)
  have front : ':' ∉ mark := by
    rcases List.mem_cons.mp marked with rfl | marked
    · simp
    · rw [List.mem_singleton.mp marked]
      decide
  simp [front, apart major, apart minor, apart patch]

theorem listed_iff_not_bare {c : Commit} :
    Listed c ↔ ¬ (c.summary.toList = [] ∨ ∃ major minor patch, Bare c.summary.toList major minor patch) := by
  simp only [bare_iff_spelled c.summary_unbroken, Listed, Version.Names, not_or, String.toList_eq_nil_iff]
  refine and_congr_right fun _ => ⟨?_, ?_⟩
  · rintro unspelled ⟨major, minor, patch, spelled⟩
    exact unspelled _ ⟨major, minor, patch, spelled, rfl⟩
  · rintro unspelled v ⟨major, minor, patch, spelled, -⟩
    exact unspelled ⟨major, minor, patch, spelled⟩

/-! ## Where a commit is filed -/

/-- A commit is filed under a section or left out: so says the change log of this commit alone, and among other commits
its line comes between theirs. -/
structure Filed (c : Commit) (place : Option Section) : Prop where
  alone : render [c] = place.elim "" fun s => "### " ++ s.title ++ "\n\n" ++ line c
  among : ∀ before after s, linesOf s (before ++ c :: after) =
    linesOf s before ++ ((if place = some s then [line c] else []) ++ linesOf s after)

theorem linesOf_insert (s : Section) (before after : List Commit) (c : Commit) :
    linesOf s (before ++ c :: after) =
      linesOf s before ++ ((if sectionOf? c.summary.toList = some s then [line c] else []) ++ linesOf s after) := by
  simp only [linesOf, List.filter_append, List.filter_cons, List.map_append]
  by_cases here : sectionOf? c.summary.toList = some s <;> simp [here]

theorem render_single (c : Commit) :
    render [c] = (sectionOf? c.summary.toList).elim "" fun s => "### " ++ s.title ++ "\n\n" ++ line c := by
  have lines : ∀ s, linesOf s [c] = if sectionOf? c.summary.toList = some s then [line c] else [] := by
    intro s
    simpa [linesOf] using linesOf_insert s [] [] c
  simp only [render, block?, Section.all, lines]
  rcases sectionOf? c.summary.toList with _ | s
  · rfl
  · cases s <;> rfl

theorem filed_iff {c : Commit} {place : Option Section} : Filed c place ↔ sectionOf? c.summary.toList = place := by
  constructor
  · rintro ⟨-, among⟩
    apply Option.ext
    intro s
    -- The lines of `[c]` tell the two places apart.
    have both := (linesOf_insert s [] [] c).symm.trans (among [] [] s)
    by_cases here : place = some s <;> by_cases there : sectionOf? c.summary.toList = some s <;>
      simp_all
  · rintro rfl
    exact ⟨render_single c, fun before after s => linesOf_insert s before after c⟩

theorem filed_some_iff {c : Commit} {s : Section} : Filed c (some s) ↔ Listed c ∧ chosen c.summary = s := by
  rw [filed_iff, sectionOf?_summary]
  by_cases listed : Listed c <;> simp [listed]

theorem filed_none_iff {c : Commit} : Filed c none ↔ ¬ Listed c := by
  rw [filed_iff, sectionOf?_summary]
  by_cases listed : Listed c <;> simp [listed]

theorem chosen_eq_features_iff {summary : String} : chosen summary = .features ↔ OfKind "feat" summary.toList := by
  rw [ofKind_iff (by decide), chosen]
  split_ifs <;> simp_all

theorem chosen_eq_fixes_iff {summary : String} : chosen summary = .fixes ↔ OfKind "fix" summary.toList := by
  rw [ofKind_iff (by decide), chosen]
  split_ifs <;> simp_all

theorem listed_of_ofKind {word : String} {c : Commit} (kind : OfKind word c.summary.toList) : Listed c := by
  rw [listed_iff_not_bare]
  rintro (empty | ⟨major, minor, patch, bare⟩)
  · have colon := kind.colon_mem
    rw [empty] at colon
    cases colon
  · exact colon_not_mem_of_bare bare kind.colon_mem

theorem ofTag_ne_none_iff {c : Commit} :
    Version.ofTag c.summary ≠ .ok none ↔ ∃ major minor patch, Bare c.summary.toList major minor patch := by
  simp only [ne_eq, Version.ofTag_eq_none_iff, bare_iff_spelled c.summary_unbroken, not_forall, not_not]

/-- A commit is filed by the form of its summary. Those of the kinds `feat` and `fix` have sections of their own, those
that say nothing or only name a version are left out, and all others go to the last section. Reading the summary as a
tag agrees with this: it finds no version just in those that are filed and in the empty one, and of the others it gives
the version unless a number has too many digits. -/
theorem commits_filed_by_form (c : Commit) :
    let summary := c.summary.toList
    (Filed c (some .features) ↔ OfKind "feat" summary) ∧
    (Filed c (some .fixes) ↔ OfKind "fix" summary) ∧
    (Filed c none ↔ summary = [] ∨ ∃ major minor patch, Bare summary major minor patch) ∧
    (Filed c (some .other) ↔ ¬ (OfKind "feat" summary ∨ OfKind "fix" summary ∨
      summary = [] ∨ ∃ major minor patch, Bare summary major minor patch)) ∧
    (Filed c none ↔ summary = [] ∨ Version.ofTag c.summary ≠ .ok none) ∧
    ((∃ v, Version.ofTag c.summary = .ok (some v)) ↔
      ∃ major minor patch, Bare summary major minor patch ∧ Version.WithinLimit [major, minor, patch]) := by
  intro summary
  have features : Filed c (some .features) ↔ OfKind "feat" summary := by
    rw [filed_some_iff, chosen_eq_features_iff]
    exact ⟨And.right, fun kind => ⟨listed_of_ofKind kind, kind⟩⟩
  have fixes : Filed c (some .fixes) ↔ OfKind "fix" summary := by
    rw [filed_some_iff, chosen_eq_fixes_iff]
    exact ⟨And.right, fun kind => ⟨listed_of_ofKind kind, kind⟩⟩
  have skipped : Filed c none ↔ summary = [] ∨ ∃ major minor patch, Bare summary major minor patch := by
    rw [filed_none_iff, listed_iff_not_bare, not_not]
  refine ⟨features, fixes, skipped, ?_, ?_, ?_⟩
  · rw [← skipped, ← features, ← fixes]
    simp only [filed_iff]
    rcases sectionOf? summary with _ | s
    · simp
    · cases s <;> simp
  · rw [skipped, ofTag_ne_none_iff]
  · simp only [Version.ofTag_eq_some_iff]
    constructor
    · rintro ⟨v, major, minor, patch, spelled, short, -⟩
      exact ⟨major, minor, patch, (bare_iff_spelled c.summary_unbroken).mpr spelled, short⟩
    · rintro ⟨major, minor, patch, bare, short⟩
      exact ⟨_, major, minor, patch, (bare_iff_spelled c.summary_unbroken).mp bare, short, rfl⟩

def paddedCommit (zeros : Nat) : Commit := ⟨"c0ffee", Version.paddedName zeros, none⟩

theorem summary_paddedCommit (zeros : Nat) : (paddedCommit zeros).summary = Version.paddedName zeros := by
  have plain : ∀ d ∈ (Version.paddedName zeros).toList, isBlank d = false := by
    intro d member
    have known : d = '1' ∨ d = '.' ∨ d = '0' ∨ d = '.' ∨ zeros ≠ 0 ∧ d = '0' ∨ d = '1' := by
      simpa [Version.paddedName, Version.padded] using member
    rcases known with rfl | rfl | rfl | rfl | ⟨-, rfl⟩ | rfl <;> decide
  rw [Commit.summary, paddedCommit, Commit.summaryOf_eq_self plain, String.ofList_toList]

/-- A commit that names a version is left out also if its number has too many digits to be read. -/
theorem padded_release_skipped :
    (paddedCommit 4300).summary = Version.paddedName 4300 ∧ Filed (paddedCommit 4300) none ∧
      Version.ofTag (paddedCommit 4300).summary = .error (.tooLong 4301) := by
  have summary := summary_paddedCommit 4300
  have spelled := Version.paddedName_spelled 4300
  rw [← summary] at spelled
  have bare := (bare_iff_spelled (Commit.summary_unbroken _)).mpr spelled
  refine ⟨summary, ?_, ?_⟩
  · rw [filed_none_iff, listed_iff_not_bare, not_not]
    exact .inr ⟨_, _, _, bare⟩
  · rw [summary]
    exact Version.ofTag_paddedName (by decide)

end ChangeLog

end PluginKit
