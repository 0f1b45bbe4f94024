import PluginKit.Proofs.Release.Notes
import PluginKit.Proofs.Release.Versions

/-!
The sections of a change log. Its rows are those of the commits that say something, each once, below the heading of
its section and in the order of the commits. Headings, empty rows and rows of commits cannot be taken for one another,
so a reader of the text gets back the lines of every section.
-/

namespace PluginKit.ChangeLog

open Text

variable {commits : List Commit} {s t : Section}

/-! ## Where commits go -/

def Listed (c : Commit) : Prop := c.summary ≠ "" ∧ ∀ v, ¬ Version.Names c.summary v

theorem listed_iff {c : Commit} : Listed c ↔ c.summary ≠ "" ∧ Version.ofName? c.summary = none := by
  simp only [Listed, ← Version.ofName?_eq_some, Option.eq_none_iff_forall_ne_some]

instance (c : Commit) : Decidable (Listed c) := decidable_of_iff _ listed_iff.symm

def chosen (summary : String) : Section :=
  if conventionalKind? summary.toList = some ['f', 'e', 'a', 't'] then .features
  else if conventionalKind? summary.toList = some ['f', 'i', 'x'] then .fixes
  else .other

theorem sectionOf?_summary (c : Commit) :
    sectionOf? c.summary.toList = if Listed c then some (chosen c.summary) else none := by
  have named : (Version.digits? c.summary.toList).isSome = (Version.ofName? c.summary).isSome := by
    rw [Version.ofName?, Option.isSome_map]
  rw [sectionOf?, named]
  by_cases listed : Listed c
  · obtain ⟨worded, unversioned⟩ := listed_iff.mp listed
    have filled : c.summary.toList.isEmpty = false := by simpa [String.toList_eq_nil_iff] using worded
    rw [if_pos listed, unversioned, filled, chosen]
    simp only [Option.isSome_none, Bool.or_self, Bool.false_eq_true, if_false]
    generalize conventionalKind? c.summary.toList = kind
    split
    · rw [if_pos rfl]
    · rw [if_neg (by decide), if_pos rfl]
    · rename_i feature fix
      rw [if_neg feature, if_neg fix]
  · rw [if_neg listed, if_pos]
    rw [listed_iff, not_and_or, not_not] at listed
    rcases listed with empty | version
    · simp [empty]
    · rw [Option.isSome_iff_ne_none.mpr version, Bool.or_true]

def entries (s : Section) (commits : List Commit) : List String :=
  (commits.filter fun c => Listed c ∧ chosen c.summary = s).map line

theorem linesOf_eq_entries (s : Section) (commits : List Commit) : linesOf s commits = entries s commits := by
  unfold linesOf entries
  refine congrArg (List.map line) (List.filter_congr fun c _ => ?_)
  rw [sectionOf?_summary, Bool.eq_iff_iff]
  by_cases listed : Listed c <;> simp [listed]

def filled (commits : List Commit) : List Section :=
  [.features, .fixes, .other].filter fun s => entries s commits ≠ []

theorem filled_eq_sections (commits : List Commit) : filled commits = sections commits := by
  rw [filled, sections, Section.all]
  congr 1
  funext s
  rw [linesOf_eq_entries]
  cases entries s commits <;> simp

/-! ## Reading a change log -/

def gather (s : Section) : Option Section → List (List Char) → List (List Char)
  | _, [] => []
  | under, row :: rest =>
    match Section.all.find? (heading · = row) with
    | some t => gather s (some t) rest
    | none => if under = some s ∧ row ≠ [] then row :: gather s under rest else gather s under rest

def recover (s : Section) (text : String) : List String := (gather s none (rows text.toList)).map String.ofList

theorem gather_heading (under : Option Section) (rest : List (List Char)) :
    gather s under (heading t :: rest) = gather s (some t) rest := by
  have found : Section.all.find? (heading · = heading t) = some t := by cases t <;> decide
  rw [gather, found]

theorem gather_blank (under : Option Section) (rest : List (List Char)) :
    gather s under ([] :: rest) = gather s under rest := by
  have other : Section.all.find? (heading · = []) = none := by decide
  rw [gather, other]
  simp

theorem gather_starred {row : List Char} (starred : "* ".toList <+: row) (under : Option Section)
    (rest : List (List Char)) :
    gather s under (row :: rest) = (if under = some s then [row] else []) ++ gather s under rest := by
  obtain ⟨tail, rfl⟩ := starred
  have other : Section.all.find? (heading · = "* ".toList ++ tail) = none := by
    rw [List.find?_eq_none]
    intro t _
    cases t <;> simp [heading]
  rw [gather, other]
  by_cases here : under = some s <;> simp [here]

theorem gather_lines {lines : List (List Char)} (starred : ∀ row ∈ lines, "* ".toList <+: row)
    (under : Option Section) (rest : List (List Char)) :
    gather s under (lines ++ rest) = (if under = some s then lines else []) ++ gather s under rest := by
  induction lines with
  | nil => simp
  | cons row lines ih =>
      rw [List.cons_append, gather_starred (starred row List.mem_cons_self),
        ih fun other member => starred other (List.mem_cons_of_mem _ member)]
      split <;> simp

theorem gather_sections {lines : Section → List (List Char)} (starred : ∀ t, ∀ row ∈ lines t, "* ".toList <+: row)
    (under : Option Section) (all : List Section) :
    gather s under ([[]].intercalate (all.map fun t => heading t :: [] :: lines t)) =
      all.flatMap fun t => if t = s then lines t else [] := by
  -- A heading closes what was open, so sections are gathered one by one.
  induction all generalizing under with
  | nil => rfl
  | cons t rest ih =>
      cases rest with
      | nil =>
          have gathered := gather_lines (s := s) (starred t) (some t) []
          rw [List.append_nil] at gathered
          rw [List.map_singleton, List.intercalate_singleton, gather_heading, gather_blank, gathered, gather]
          simp
      | cons next others =>
          rw [List.map_cons, List.map_cons, List.intercalate_cons_cons, List.append_assoc, List.cons_append,
            List.cons_append, gather_heading, gather_blank, gather_lines (starred t), List.singleton_append,
            gather_blank]
          rw [List.map_cons] at ih
          rw [ih (some t), List.flatMap_cons (x := t)]
          simp

theorem flatMap_sections (s : Section) (commits : List Commit) :
    ((sections commits).flatMap fun t => if t = s then (linesOf t commits).map String.toList else []) =
      (linesOf s commits).map String.toList := by
  have dropped : ∀ all : List Section, ((all.filter fun t => !(linesOf t commits).isEmpty).flatMap fun t =>
      if t = s then (linesOf t commits).map String.toList else []) =
      all.flatMap fun t => if t = s then (linesOf s commits).map String.toList else [] := by
    intro all
    induction all with
    | nil => simp
    | cons t rest ih =>
        rw [List.flatMap_cons, ← ih]
        by_cases same : t = s
        · subst same
          cases empty : linesOf t commits <;> simp [empty]
        · cases empty : linesOf t commits <;> simp [empty, same]
  rw [sections, dropped]
  cases s <;> simp [Section.all]

theorem recover_render (shas : ∀ c ∈ commits, '\n' ∉ c.sha.toList) (s : Section) :
    recover s (render commits) = linesOf s commits := by
  have starred : ∀ t, ∀ row ∈ (linesOf t commits).map String.toList, "* ".toList <+: row := by
    intro t row member
    obtain ⟨_, listed, rfl⟩ := List.mem_map.mp member
    obtain ⟨c, -, rfl⟩ := List.mem_map.mp listed
    exact startsWith_line c
  have gathered : gather s none (rows (render commits).toList) = (linesOf s commits).map String.toList := by
    rw [rows_render shas, ← flatMap_sections]
    split
    · rename_i empty
      rw [empty, gather_blank, gather, List.flatMap_nil]
    · exact gather_sections starred none _
  rw [recover, gathered, List.map_map]
  exact (List.map_congr_left fun line _ => String.ofList_toList).trans (List.map_id _)

theorem render_congr {other : List Commit} (same : ∀ s, linesOf s commits = linesOf s other) :
    render commits = render other := by
  simp only [render, block?, same]

/-- The rows of a change log are the sections that have a line, in their order, each with its heading and one row for
each of its commits, in the order of the commits. The lines can be read from the text, so two change logs are equal if
and only if their sections have the same lines. -/
theorem lines_kept_in_sections {other : List Commit} (shas : ∀ c ∈ commits, '\n' ∉ c.sha.toList)
    (shas' : ∀ c ∈ other, '\n' ∉ c.sha.toList) :
    (rows (render commits).toList = if filled commits = [] then [[]] else [[]].intercalate
      ((filled commits).map fun s => ("### " ++ s.title).toList :: [] :: (entries s commits).map String.toList)) ∧
    (∀ s, recover s (render commits) = entries s commits) ∧
    (render commits = render other ↔ ∀ s, entries s commits = entries s other) := by
  have title : ∀ s : Section, ("### " ++ s.title).toList = heading s := fun s => String.toList_append
  simp only [filled_eq_sections, title, ← linesOf_eq_entries]
  refine ⟨rows_render shas, recover_render shas, fun same s => ?_, render_congr⟩
  rw [← recover_render shas, same, recover_render shas']

theorem release_commits_in_sections :
    let commits : List Commit := [⟨"0123456789", "fix(json): a\r\nmore", none⟩, ⟨"1", "v1.2.3", none⟩,
      ⟨"fedcba98", "  ### Features", none⟩, ⟨"abc\x85", "FIX!: b", none⟩]
    let other : List Commit := [⟨"fedcba9", "### Features\x0b", none⟩, ⟨"0123456000", "fix(json): a", none⟩,
      ⟨"abc\x85", "FIX!: b", some "link"⟩]
    recover .fixes (render commits) = ["* fix(json): a (0123456)", "* FIX!: b (abc\x85)"] ∧
      recover .features (render commits) = [] ∧ recover .other (render commits) = ["* ### Features (fedcba9)"] ∧
      render commits = render other := by
  intro commits other
  have entered : entries .fixes commits = ["* fix(json): a (0123456)", "* FIX!: b (abc\x85)"] ∧
      entries .features commits = [] ∧ entries .other commits = ["* ### Features (fedcba9)"] ∧
      ∀ s, entries s commits = entries s other := by
    refine ⟨by decide, by decide, by decide, fun s => ?_⟩
    cases s <;> decide
  obtain ⟨-, read, same⟩ := lines_kept_in_sections (show ∀ c ∈ commits, _ by decide) (show ∀ c ∈ other, _ by decide)
  exact ⟨(read _).trans entered.1, (read _).trans entered.2.1, (read _).trans entered.2.2.1, same.mpr entered.2.2.2⟩

end PluginKit.ChangeLog
