import Mathlib.Data.List.DropRight
import PluginKit.Proofs.Text.Lines

/-!
Blanks around a text and the lines in it. Every line end is a blank, so removing the blanks around a text can take lines
away but never joins two of them, and the first line that is left is the first one of the text that has more than blanks
in it.
-/

namespace PluginKit.Text

/-! ## Blanks around a text -/

def AllBlank (s : List Char) : Prop := ∀ c ∈ s, isBlank c = true

structure Tight (s : List Char) : Prop where
  first : ∀ c ∈ s.head?, isBlank c = false
  last : ∀ c ∈ s.getLast?, isBlank c = false

structure Trimmed (s core : List Char) : Prop where
  around : ∃ before after, s = before ++ core ++ after ∧ AllBlank before ∧ AllBlank after
  tight : Tight core

theorem isBlank_of_isLineEnd {c : Char} (ends : isLineEnd c = true) : isBlank c = true := by
  simp only [isLineEnd, isBlank, Bool.or_eq_true, Bool.and_eq_true, decide_eq_true_eq, beq_iff_eq] at ends ⊢
  omega

theorem isLineEnd_of_not_isBlank {c : Char} (text : isBlank c = false) : isLineEnd c = false := by
  by_contra ends
  rw [isBlank_of_isLineEnd (by simpa using ends)] at text
  cases text

theorem trimStart_tight (s : List Char) : ∀ c ∈ (trimStart s).head?, isBlank c = false := by
  intro c first
  have stopped := List.head?_dropWhile_not isBlank s
  rw [← trimStart, Option.mem_def.mp first] at stopped
  simpa using stopped

theorem dropWhile_tight {s : List Char} (tight : ∀ c ∈ s.head?, isBlank c = false) : s.dropWhile isBlank = s := by
  cases s with
  | nil => rfl
  | cons c rest => rw [List.dropWhile_cons_of_neg (by simp [tight c rfl])]

theorem trim_trimmed (s : List Char) : Trimmed s (trim s) := by
  refine ⟨⟨s.takeWhile isBlank, (trimStart s).rtakeWhile isBlank, ?_, ?_, ?_⟩, ?_, ?_⟩
  · have back : trim s ++ (trimStart s).rtakeWhile isBlank = trimStart s :=
      List.rdropWhile_append_rtakeWhile
    rw [List.append_assoc, back, trimStart, List.takeWhile_append_dropWhile]
  · exact fun c member => List.mem_takeWhile_imp member
  · exact fun c member => List.mem_rtakeWhile_imp member
  · intro c first
    obtain ⟨rest, whole⟩ : trim s <+: trimStart s := List.rdropWhile_prefix isBlank (trimStart s)
    refine trimStart_tight s c ?_
    rw [← whole, List.head?_append, Option.mem_def.mp first]
    rfl
  · intro c last
    have filled : trim s ≠ [] := by
      intro empty
      rw [empty] at last
      cases last
    have stopped := List.rdropWhile_last_not isBlank (trimStart s) filled
    rw [List.getLast?_eq_getLast_of_ne_nil filled, Option.mem_some_iff] at last
    rw [← last]
    exact Bool.eq_false_iff.mpr stopped

theorem trim_eq_nil_iff {s : List Char} : trim s = [] ↔ AllBlank s := by
  rw [trim, trimEnd, List.reverse_eq_nil_iff, List.dropWhile_eq_nil_iff]
  constructor
  · intro rest
    have empty : trimStart s = [] := by
      cases start : trimStart s with
      | nil => rfl
      | cons c t =>
          have blank := rest c (by simp [start])
          rw [trimStart_tight s c (by rw [start]; rfl)] at blank
          cases blank
    exact List.dropWhile_eq_nil_iff.mp empty
  · intro all c member
    exact all c ((List.dropWhile_suffix _).subset (List.mem_reverse.mp member))

theorem Trimmed.eq_trim {s core : List Char} (trimmed : Trimmed s core) : core = trim s := by
  obtain ⟨⟨before, after, rfl, blank, blank'⟩, tight⟩ := trimmed
  have start : trimStart (before ++ core ++ after) = (core ++ after).dropWhile isBlank := by
    rw [trimStart, List.append_assoc, List.dropWhile_append_of_pos blank]
  -- Without a core there is no end at which either way of dropping blanks would stop.
  by_cases empty : core = []
  · have all : AllBlank (before ++ core ++ after) := by
      intro c member
      rw [empty, List.append_nil, List.mem_append] at member
      exact member.elim (blank c) (blank' c)
    rw [trim_eq_nil_iff.mpr all, empty]
  · have front : ∀ c ∈ (core ++ after).head?, isBlank c = false := by
      rw [List.head?_append_of_ne_nil _ empty]
      exact tight.first
    have back : ∀ c ∈ core.reverse.head?, isBlank c = false := by
      rw [List.head?_reverse]
      exact tight.last
    have blanks : ∀ c ∈ after.reverse, isBlank c = true := fun c member => blank' c (List.mem_reverse.mp member)
    rw [trim, start, dropWhile_tight front, trimEnd, List.reverse_append, List.dropWhile_append_of_pos blanks,
      dropWhile_tight back, List.reverse_reverse]

theorem trim_of_tight {s : List Char} (tight : Tight s) : trim s = s :=
  (Trimmed.eq_trim ⟨⟨[], [], by simp, by simp [AllBlank], by simp [AllBlank]⟩, tight⟩).symm

theorem trim_cons_blank {c : Char} (blank : isBlank c = true) (s : List Char) : trim (c :: s) = trim s := by
  rw [trim, trimStart, List.dropWhile_cons_of_pos blank, ← trimStart, ← trim]

theorem trim_append_blank (s : List Char) {after : List Char} (blank : AllBlank after) : trim (s ++ after) = trim s := by
  obtain ⟨⟨before, between, whole, front, back⟩, tight⟩ := trim_trimmed s
  refine (Trimmed.eq_trim ⟨⟨before, between ++ after, ?_, front, ?_⟩, tight⟩).symm
  · rw [← List.append_assoc, ← whole]
  · intro c member
    exact (List.mem_append.mp member).elim (back c) (blank c)

/-! ## Cutting a text into lines -/

/-- What ends a line that `rest` comes after: any line end, but a carriage return only together with a line feed that
follows it. -/
inductive Ending (rest : List Char) : List Char → Prop
  | pair : Ending rest ['\r', '\n']
  | single {c : Char} (ends : isLineEnd c = true) (alone : ¬ (c = '\r' ∧ '\n' ∈ rest.head?)) : Ending rest [c]

/-- The lines of a text. Only the last one may lack an end, and then it is not empty. -/
inductive Cut : List Char → List (List Char) → Prop
  | nothing : Cut [] []
  | last {line : List Char} (filled : line ≠ []) (whole : ∀ c ∈ line, isLineEnd c = false) : Cut line [line]
  | next {line ending rest : List Char} {others : List (List Char)} (whole : ∀ c ∈ line, isLineEnd c = false)
      (ends : Ending rest ending) (later : Cut rest others) : Cut (line ++ ending ++ rest) (line :: others)

theorem lines_cons_inside {c : Char} (inside : isLineEnd c = false) (rest : List Char) :
    lines (c :: rest) = (c :: (lines rest).headD []) :: (lines rest).tail := by
  rw [lines]
  · rw [if_neg (by simp [inside])]
    cases lines rest <;> rfl
  · rintro more rfl
    cases inside

theorem lines_cons_end {c : Char} {rest : List Char} (ends : isLineEnd c = true)
    (alone : ¬ (c = '\r' ∧ '\n' ∈ rest.head?)) : lines (c :: rest) = [] :: lines rest := by
  rw [lines]
  · rw [if_pos ends]
  · rintro more rfl rfl
    exact alone ⟨rfl, rfl⟩

theorem lines_pair (rest : List Char) : lines ('\r' :: '\n' :: rest) = [] :: lines rest := by rw [lines]

theorem lines_append {line ending rest : List Char} (whole : ∀ c ∈ line, isLineEnd c = false)
    (ends : Ending rest ending) : lines (line ++ ending ++ rest) = line :: lines rest := by
  induction line with
  | nil =>
      cases ends with
      | pair => exact lines_pair rest
      | single ends alone => exact lines_cons_end ends alone
  | cons c line ih =>
      have inside := whole c List.mem_cons_self
      rw [List.cons_append, List.cons_append, lines_cons_inside inside,
        ih fun d member => whole d (List.mem_cons_of_mem _ member)]
      rfl

theorem lines_unended {line : List Char} (filled : line ≠ []) (whole : ∀ c ∈ line, isLineEnd c = false) :
    lines line = [line] := by
  induction line with
  | nil => exact absurd rfl filled
  | cons c line ih =>
      rw [lines_cons_inside (whole c List.mem_cons_self)]
      cases line with
      | nil => rfl
      | cons d line =>
          rw [ih (by simp) fun e member => whole e (List.mem_cons_of_mem _ member)]
          rfl

theorem Cut.eq_lines {s : List Char} {rows : List (List Char)} (cut : Cut s rows) : rows = lines s := by
  induction cut with
  | nothing => rfl
  | last filled whole => exact (lines_unended filled whole).symm
  | next whole ends _ ih => rw [lines_append whole ends, ih]

theorem Cut.cons_inside {c : Char} {s : List Char} {rows : List (List Char)} (inside : isLineEnd c = false)
    (cut : Cut s rows) : Cut (c :: s) ((c :: rows.headD []) :: rows.tail) := by
  have longer : ∀ {line : List Char}, (∀ d ∈ line, isLineEnd d = false) → ∀ d ∈ c :: line, isLineEnd d = false :=
    fun whole => List.forall_mem_cons.mpr ⟨inside, whole⟩
  cases cut with
  | nothing => exact .last (by simp) (longer (by simp))
  | last filled whole => exact .last (by simp) (longer whole)
  | next whole ends later => exact .next (longer whole) ends later

theorem cut_lines (s : List Char) : Cut s (lines s) := by
  have empty : ∀ c ∈ ([] : List Char), isLineEnd c = false := by simp
  fun_induction lines s with
  | case1 => exact .nothing
  | case2 rest ih => exact .next empty .pair ih
  | case3 c rest other ends ih =>
      refine .next empty (.single ends ?_) ih
      -- With a line feed next, the carriage return was the pair of the case before.
      rintro ⟨rfl, feed⟩
      obtain ⟨more, rfl⟩ := List.head?_eq_some_iff.mp feed
      exact other more rfl rfl
  | case4 c rest other inside ended ih =>
      rw [ended] at ih
      exact ih.cons_inside (by simpa using inside)
  | case5 c rest other inside line others split ih =>
      rw [split] at ih
      exact ih.cons_inside (by simpa using inside)

theorem Cut.headD_eq {s : List Char} {rows : List (List Char)} (cut : Cut s rows) :
    rows.headD [] = s.takeWhile fun c => !isLineEnd c := by
  have inside : ∀ {line : List Char}, (∀ c ∈ line, isLineEnd c = false) → ∀ c ∈ line, (!isLineEnd c) = true :=
    fun whole c member => by rw [whole c member]; rfl
  cases cut with
  | nothing => rfl
  | last filled whole => exact (List.takeWhile_eq_self_iff.mpr (inside whole)).symm
  | next whole ends later =>
      rw [List.append_assoc, List.takeWhile_append_of_pos (inside whole)]
      cases ends with
      | pair => exact (List.append_nil _).symm
      | single ends alone => simp [ends]

/-! ## The first line with text -/

def hasText (line : List Char) : Bool := line.any fun c => !isBlank c

def firstText (s : List Char) : List Char := ((lines s).find? hasText).getD []

theorem hasText_cons_blank {c : Char} (blank : isBlank c = true) (line : List Char) :
    hasText (c :: line) = hasText line := by
  simp [hasText, blank]

theorem trim_firstText_cons {c : Char} (blank : isBlank c = true) (s : List Char) :
    trim (firstText (c :: s)) = trim (firstText s) := by
  -- The blank is a line of its own, the first half of a line end that starts `s`, or part of the first line.
  by_cases ends : isLineEnd c = true
  · by_cases pair : c = '\r' ∧ '\n' ∈ s.head?
    · obtain ⟨rfl, feed⟩ := pair
      obtain ⟨rest, rfl⟩ := List.head?_eq_some_iff.mp feed
      have after : lines ('\n' :: rest) = [] :: lines rest := lines_cons_end (by decide) (by simp)
      rw [firstText, firstText, lines_pair, after]
    · rw [firstText, firstText, lines_cons_end ends pair, List.find?_cons_of_neg (by simp [hasText])]
  · rw [firstText, firstText, lines_cons_inside (by simpa using ends)]
    cases lines s with
    | nil => simp [hasText, blank]
    | cons line others =>
        rw [List.headD_cons, List.tail_cons, List.find?_cons, List.find?_cons, hasText_cons_blank blank]
        cases hasText line with
        | true => exact trim_cons_blank blank line
        | false => rfl

theorem trim_firstText_trimStart (s : List Char) : trim (firstText (trimStart s)) = trim (firstText s) := by
  induction s with
  | nil => rfl
  | cons c s ih =>
      by_cases blank : isBlank c = true
      · rw [trim_firstText_cons blank, ← ih, trimStart, List.dropWhile_cons_of_pos blank, trimStart]
      · rw [trimStart, List.dropWhile_cons_of_neg blank]

theorem firstText_of_tight {s : List Char} (tight : ∀ c ∈ s.head?, isBlank c = false) :
    firstText s = s.takeWhile fun c => !isLineEnd c := by
  cases s with
  | nil => rfl
  | cons c s =>
      have text : isBlank c = false := tight c rfl
      have inside := isLineEnd_of_not_isBlank text
      have first := (cut_lines (c :: s)).headD_eq
      rw [lines_cons_inside inside, List.headD_cons] at first
      rw [firstText, lines_cons_inside inside, List.find?_cons_of_pos (by simp [hasText, text]), ← first]
      rfl

theorem trim_takeWhile_trimEnd (p : Char → Bool) (s : List Char) :
    trim ((trimEnd s).takeWhile p) = trim (s.takeWhile p) := by
  have whole : trimEnd s ++ s.rtakeWhile isBlank = s := List.rdropWhile_append_rtakeWhile
  have blank : AllBlank ((s.rtakeWhile isBlank).takeWhile p) := fun c member =>
    List.mem_rtakeWhile_imp ((List.takeWhile_prefix p).subset member)
  have cut : s.takeWhile p = (trimEnd s ++ s.rtakeWhile isBlank).takeWhile p := by rw [whole]
  rw [cut, List.takeWhile_append]
  -- The blanks come after the first line if it is all there is before them, and else they do not reach it.
  split
  · rename_i all
    rw [trim_append_blank _ blank, (List.takeWhile_prefix p).eq_of_length all]
  · rfl

end PluginKit.Text
