import PluginKit.Proofs.Plugin.Activity
import PluginKit.Proofs.Text.Lines
import PluginKit.Release.Client

/-!
The rows of release notes. A commit has one row whatever its message says, so the headings are those of the notes and
of the sections, and nothing that a commit says can be taken for one.
-/

namespace PluginKit

open Text

/-! ## Rows of commits -/

namespace Commit

theorem summaryOf_unbroken (message : List Char) : ∀ c ∈ summaryOf message, isLineEnd c = false := by
  intro c member
  rw [summaryOf] at member
  split at member
  · cases member
  · rename_i line _ split
    have within := trim_subset _ member
    exact lines_unbroken _ line (by rw [split]; exact List.mem_cons_self) _ within

theorem summary_unbroken (c : Commit) : '\n' ∉ c.summary.toList := by
  rw [summary, String.toList_ofList]
  exact fun member => absurd (summaryOf_unbroken _ _ member) (by decide)

theorem shortSha_unbroken {c : Commit} (whole : '\n' ∉ c.sha.toList) : '\n' ∉ c.shortSha.toList := by
  rw [shortSha, String.toList_ofList]
  exact fun member => whole (takeCodes_subset 7 _ member)

end Commit

namespace ChangeLog

variable {commits : List Commit}

def heading (s : Section) : List Char := "### ".toList ++ s.title.toList

theorem line_unbroken {c : Commit} (whole : '\n' ∉ c.sha.toList) : '\n' ∉ (line c).toList := by
  have summary := c.summary_unbroken
  have sha := Commit.shortSha_unbroken whole
  simp [line, summary, sha]

theorem startsWith_line (c : Commit) : "* ".toList <+: (line c).toList := by
  simp [line, String.append_assoc]

theorem rows_block {s : Section} {text : String} (shas : ∀ c ∈ commits, '\n' ∉ c.sha.toList)
    (filled : block? s commits = some text) :
    rows text.toList = heading s :: [] :: (linesOf s commits).map String.toList := by
  rw [block?] at filled
  split at filled
  · cases filled
  · rename_i listed
    cases filled
    have whole : ∀ row ∈ (linesOf s commits).map String.toList, rows row = [row] := by
      intro row member
      obtain ⟨_, listed, rfl⟩ := List.mem_map.mp member
      obtain ⟨c, among, rfl⟩ := List.mem_map.mp listed
      exact rows_single (line_unbroken (shas c (List.mem_of_mem_filter among)))
    have heads : '\n' ∉ heading s := by cases s <;> decide
    have cut : ("### " ++ s.title ++ "\n\n" ++ String.intercalate "\n" (linesOf s commits)).toList =
        heading s ++ '\n' :: ([] ++ '\n' :: ['\n'].intercalate ((linesOf s commits).map String.toList)) := by
      simp [heading, String.toList_intercalate]
    rw [cut, rows_append, rows_append, rows_single heads, rows_intercalate (by simpa using listed),
      List.flatMap_congr whole]
    simp [rows]

def sections (commits : List Commit) : List Section := Section.all.filter fun s => !(linesOf s commits).isEmpty

theorem rows_blocks (shas : ∀ c ∈ commits, '\n' ∉ c.sha.toList) (all : List Section) :
    (all.filterMap fun s => block? s commits).map (fun text => rows text.toList) =
      (all.filter fun s => !(linesOf s commits).isEmpty).map fun s =>
        heading s :: [] :: (linesOf s commits).map String.toList := by
  induction all with
  | nil => rfl
  | cons s rest ih =>
      cases empty : (linesOf s commits).isEmpty with
      | true =>
          have absent : block? s commits = none := by simp [block?, empty]
          simp [absent, empty, ih]
      | false =>
          obtain ⟨text, filled⟩ : ∃ text, block? s commits = some text := by simp [block?, empty]
          simp [filled, empty, ih, rows_block shas filled]

theorem rows_render (shas : ∀ c ∈ commits, '\n' ∉ c.sha.toList) :
    rows (render commits).toList =
      if sections commits = [] then [[]]
      else [[]].intercalate ((sections commits).map fun s =>
        heading s :: [] :: (linesOf s commits).map String.toList) := by
  have blocks := rows_blocks shas Section.all
  have cut : (render commits).toList =
      ['\n', '\n'].intercalate ((Section.all.filterMap fun s => block? s commits).map String.toList) := by
    simp [render, String.toList_intercalate]
  rw [← sections] at blocks
  rw [cut]
  split
  · rename_i empty
    rw [empty, List.map_nil, List.map_eq_nil_iff] at blocks
    rw [blocks]
    rfl
  · rename_i filled
    rw [rows_paragraphs, List.map_map, ← blocks]
    · rfl
    · intro unlisted
      rw [List.map_eq_nil_iff] at unlisted
      rw [unlisted, List.map_nil, eq_comm, List.map_eq_nil_iff] at blocks
      exact filled blocks

theorem mem_rows_render (shas : ∀ c ∈ commits, '\n' ∉ c.sha.toList) {row : List Char}
    (member : row ∈ rows (render commits).toList) :
    row = [] ∨ row ∈ Section.all.map heading ∨ "* ".toList <+: row := by
  rw [rows_render shas] at member
  split at member
  · exact .inl (List.mem_singleton.mp member)
  · rcases mem_of_mem_paragraphs member with blank | ⟨part, among, here⟩
    · exact .inl blank
    · obtain ⟨s, -, rfl⟩ := List.mem_map.mp among
      rcases List.mem_cons.mp here with rfl | here
      · exact .inr (.inl (List.mem_map_of_mem (by cases s <;> decide)))
      rcases List.mem_cons.mp here with rfl | here
      · exact .inl rfl
      · obtain ⟨_, listed, rfl⟩ := List.mem_map.mp here
        obtain ⟨c, -, rfl⟩ := List.mem_map.mp listed
        exact .inr (.inr (startsWith_line c))

theorem startsWith_starred {row : List Char} (starred : "* ".toList <+: row) :
    startsWith "###" row = false ∧ startsWith "## " row = false := by
  obtain ⟨rest, rfl⟩ := starred
  exact ⟨rfl, rfl⟩

theorem headings_render (shas : ∀ c ∈ commits, '\n' ∉ c.sha.toList) :
    (rows (render commits).toList).filter (startsWith "###") = (sections commits).map heading := by
  have one : ∀ s, (heading s :: [] :: (linesOf s commits).map String.toList).filter (startsWith "###") =
      [heading s] := by
    intro s
    have lower : ((linesOf s commits).map String.toList).filter (startsWith "###") = [] := by
      rw [List.filter_eq_nil_iff]
      intro row member
      obtain ⟨_, listed, rfl⟩ := List.mem_map.mp member
      obtain ⟨c, -, rfl⟩ := List.mem_map.mp listed
      simp [(startsWith_starred (startsWith_line c)).1]
    have here : startsWith "###" (heading s) = true := by cases s <;> rfl
    have blank : startsWith "###" [] = false := rfl
    simp [here, blank, lower]
  rw [rows_render shas]
  split
  · rename_i empty
    rw [empty]
    rfl
  · rw [filter_paragraphs rfl, List.flatMap_map]
    simp only [one]
    exact List.map_eq_flatMap.symm

end ChangeLog

/-! ## Rows of notes -/

namespace ReleaseSettings

structure Whole (s : ReleaseSettings) : Prop where
  pluginUrlBase : '\n' ∉ s.pluginUrlBase.toList
  pluginName : '\n' ∉ s.pluginName.toList
  configKey : '\n' ∉ s.configKey.toList
  npmPackage : '\n' ∉ s.npmPackage.toList

end ReleaseSettings

namespace Notes

variable {version text : String} {settings : ReleaseSettings}

theorem withoutSlashes_subset (s : String) : (withoutSlashes s).toList ⊆ s.toList := by
  intro c member
  rw [withoutSlashes, String.toList_ofList, List.mem_reverse] at member
  exact List.mem_reverse.mp ((List.dropWhile_suffix _).subset member)

def rest (version : String) (settings : ReleaseSettings) : List String := (lines version "" settings).drop 3

theorem lines_eq (version text : String) (settings : ReleaseSettings) :
    lines version text settings = "## Changes" :: "" :: text :: rest version settings := rfl

theorem rest_unbroken (one : '\n' ∉ version.toList) (whole : settings.Whole) :
    ∀ line ∈ rest version settings, '\n' ∉ line.toList := by
  obtain ⟨base, name, key, package⟩ := whole
  have trimmed : '\n' ∉ (withoutSlashes settings.pluginUrlBase).toList := fun member =>
    base (withoutSlashes_subset _ member)
  simp [rest, lines, pluginUrl, one, trimmed, name, key, package]

theorem headings_rest (version : String) (settings : ReleaseSettings) :
    ((rest version settings).map String.toList).filter (startsWith "## ") =
      ["## Install".toList, "## JS Formatting API".toList] := by
  simp [rest, lines, startsWith]

theorem rows_notes (one : '\n' ∉ version.toList) (whole : settings.Whole) :
    rows (render version text settings).toList =
      "## Changes".toList :: [] :: rows text.toList ++ (rest version settings).map String.toList := by
  have singles : ∀ row ∈ (rest version settings).map String.toList, rows row = [row] := by
    intro row member
    obtain ⟨line, listed, rfl⟩ := List.mem_map.mp member
    exact rows_single (rest_unbroken one whole line listed)
  have title : rows "## Changes".toList = ["## Changes".toList] := rows_single (by decide)
  have blank : rows [] = [[]] := rfl
  have cut : (render version text settings).toList =
      ['\n'].intercalate ("## Changes".toList :: [] :: text.toList :: (rest version settings).map String.toList) := by
    simp [render, lines_eq, String.toList_intercalate]
  rw [cut, rows_intercalate (by simp), List.flatMap_cons, List.flatMap_cons, List.flatMap_cons,
    List.flatMap_congr singles, title, blank]
  simp

theorem rest_eq (version : String) (settings : ReleaseSettings) :
    rest version settings = "" :: "## Install" :: (rest version settings).drop 2 := rfl

end Notes

namespace Fetch

open Activity

theorem notes_of_changeLog {σ : Type} {c : Client} {limit : Nat} {version : Value} {text : String} {x : Exchange σ}
    (told : (changeLog c limit version x).1 = .ok text) (settings : ReleaseSettings) :
    (notes c limit version settings x).1 = .ok (Notes.render version.display text settings) := by
  rw [notes, bind_ok (Prod.ext told rfl)]
  rfl

/-- Whatever messages commits have, the notes have the three headings of their own and, below the first, those of
sections, each at most once and in their order; every other row there is empty or that of a commit. -/
theorem headings_not_forged {σ : Type} {commits : List Commit} {version : String} {settings : ReleaseSettings}
    (shas : ∀ c ∈ commits, '\n' ∉ c.sha.toList) (one : '\n' ∉ version.toList) (whole : settings.Whole) :
    let text := Notes.render version (ChangeLog.render commits) settings
    (∀ (c : Client) (limit : Nat) (x : Exchange σ),
      (changeLog c limit (.text version) x).1 = .ok (ChangeLog.render commits) →
        (notes c limit (.text version) settings x).1 = .ok text) ∧
    (rows text.toList).filter (startsWith "## ") =
      ["## Changes".toList, "## Install".toList, "## JS Formatting API".toList] ∧
    ∃ between after, rows text.toList = "## Changes".toList :: between ++ "## Install".toList :: after ∧
      (∀ row ∈ between, row = [] ∨ row ∈ ["### Features".toList, "### Fixes".toList, "### Other".toList] ∨
        "* ".toList <+: row) ∧
      (between.filter (startsWith "###")).Sublist
        ["### Features".toList, "### Fixes".toList, "### Other".toList] := by
  intro text
  have cut : rows text.toList = _ := Notes.rows_notes one whole
  refine ⟨fun c limit x told => notes_of_changeLog told settings, ?_, ?_⟩
  · have lower : ∀ row ∈ ChangeLog.Section.all.map ChangeLog.heading, startsWith "## " row = false := by decide
    have lower : (rows (ChangeLog.render commits).toList).filter (startsWith "## ") = [] := by
      rw [List.filter_eq_nil_iff]
      intro row member
      rcases ChangeLog.mem_rows_render shas member with rfl | titled | starred
      · decide
      · simp [lower row titled]
      · simp [(ChangeLog.startsWith_starred starred).2]
    rw [cut, List.filter_append, List.filter_cons, List.filter_cons, lower, Notes.headings_rest]
    rfl
  · refine ⟨[] :: rows (ChangeLog.render commits).toList ++ [[]],
      ((Notes.rest version settings).drop 2).map String.toList, ?_, ?_, ?_⟩
    · rw [cut, Notes.rest_eq]
      simp
    · intro row member
      rcases List.mem_append.mp member with member | last
      · rcases List.mem_cons.mp member with first | listed
        · exact .inl first
        · exact ChangeLog.mem_rows_render shas listed
      · exact .inl (List.mem_singleton.mp last)
    · have blank : [[]].filter (startsWith "###") = [] := rfl
      have ordered : ((ChangeLog.sections commits).map ChangeLog.heading).Sublist
          (ChangeLog.Section.all.map ChangeLog.heading) := List.filter_sublist.map _
      rw [← List.singleton_append, List.filter_append, List.filter_append, blank, ChangeLog.headings_render shas,
        List.nil_append, List.append_nil]
      exact ordered

theorem forged_message_tamed :
    let commits : List Commit := [⟨"0123456789", "feat: x\n## Install\n\n### Fixes", none⟩,
      ⟨"fedcba98", "\x0b## Changes\u2028## Install\r\n* fix", none⟩]
    let settings : ReleaseSettings := ⟨"https://plugins.dprint.dev/", "json", "json", "@dprint/json"⟩
    (rows (Notes.render "0.9.0" (ChangeLog.render commits) settings).toList).filter (startsWith "## ") =
      ["## Changes".toList, "## Install".toList, "## JS Formatting API".toList] := by
  intro commits settings
  have shas : ∀ c ∈ commits, '\n' ∉ c.sha.toList := by decide
  have whole : settings.Whole := ⟨by decide, by decide, by decide, by decide⟩
  have one : '\n' ∉ "0.9.0".toList := by decide
  exact (headings_not_forged (σ := Unit) shas one whole).2.1

end Fetch

end PluginKit
