import PluginKit.Console.Table
import PluginKit.Proofs.Console.Verbatim

/-!
Laying out a page adds only blanks, rules and edges to the texts on it. So a page can be printed if all its texts can be
read and printed.
-/

namespace PluginKit.Console

variable {width : Nat} {line : List Char} {lines : List (List Char)}

def Whole (line : List Char) : Prop := Text.standInMark ∉ line

instance (line : List Char) : Decidable (Whole line) := inferInstanceAs (Decidable (_ ∉ _))

@[simp] theorem whole_nil : Whole [] := List.not_mem_nil

@[simp] theorem whole_cons {c : Char} : Whole (c :: line) ↔ c ≠ Text.standInMark ∧ Whole line := by
  simp [Whole, eq_comm]

@[simp] theorem whole_append {later : List Char} : Whole (line ++ later) ↔ Whole line ∧ Whole later := by
  simp [Whole]

theorem Whole.mono {part : List Char} (whole : Whole line) (within : part ⊆ line) : Whole part :=
  fun member => whole (within member)

theorem whole_replicate {c : Char} (n : Nat) (plain : c ≠ Text.standInMark) : Whole (List.replicate n c) :=
  fun member => plain (List.eq_of_mem_replicate member).symm

@[simp] theorem whole_blanks (n : Nat) : Whole (blanks n) := whole_replicate n (by decide)

theorem whole_intercalate {divider : Char} (plain : divider ≠ Text.standInMark) (whole : ∀ line ∈ lines, Whole line) :
    Whole ([divider].intercalate lines) := by
  induction lines with
  | nil => exact whole_nil
  | cons first rest ih =>
      rw [List.forall_mem_cons] at whole
      cases rest with
      | nil =>
          rw [List.intercalate_singleton]
          exact whole.1
      | cons second rest =>
          rw [List.intercalate_cons_cons, whole_append, whole_append, whole_cons]
          exact ⟨⟨whole.1, plain, whole_nil⟩, ih whole.2⟩

/-! ## Lines -/

theorem whole_padded (whole : Whole line) : Whole (padded width line) := by
  simp [padded, whole]

theorem whole_expandTabs (whole : Whole line) : Whole (expandTabs line) := by
  intro member
  rcases mem_joinAtStops member with blank | ⟨piece, among, within⟩
  · exact absurd blank (by decide)
  · exact whole (Text.mem_of_mem_splitAt among within).1

theorem whole_textLines (whole : Whole line) : ∀ row ∈ textLines line, Whole row := by
  intro row among
  obtain ⟨part, among', rfl⟩ := List.mem_map.mp among
  refine whole_expandTabs fun within => ?_
  exact whole (List.mem_of_mem_filter (Text.mem_of_mem_splitAt among' within).1)

theorem whole_truncated (whole : Whole line) : Whole (truncated width line) := by
  have start (n : Nat) : Whole (Text.takeCodes n line) := whole.mono (Text.takeCodes_subset n line)
  have cropped (width : Nat) : Whole (cropped width line) := by
    unfold cropped
    split
    · split
      · exact whole_padded (start _)
      · exact whole
    · exact whole_nil
  unfold truncated
  split
  · exact whole
  · simp only [whole_append, cropped, true_and]
    exact whole_replicate 1 (by decide)

/-! ## Pages -/

def Shows (page : Except Markup.Fault (List String)) : Prop :=
  ∃ lines, page = .ok (toTexts lines) ∧ ∀ line ∈ lines, Whole line

def Reads (text : String) : Prop := ∃ t, Markup.plain text.toList = .ok t ∧ Whole t

theorem reads_of_literal {text : String} (literal : Markup.isLiteral text.toList = true ∧ Whole text.toList) :
    Reads text := ⟨_, Markup.plain_of_literal literal.1, literal.2⟩

theorem header_shows {title subtitle : String} {icon : Option String} (titled : Whole (withIcon icon title).toList)
    (below : Whole subtitle.toList) : Shows (.ok (header width title (some subtitle) icon)) := by
  refine ⟨_, rfl, ?_⟩
  have edges : Whole ['║', '╔', '╗', '╚', '╝', '\n'] := by decide
  simp only [whole_cons] at edges
  have rule (n : Nat) : Whole (List.replicate n '═') := whole_replicate n (by decide)
  have rows : ∀ row ∈ textLines (withIcon icon title ++ if subtitle.isEmpty then "" else "\n" ++ subtitle).toList,
      Whole row := by
    refine whole_textLines ?_
    rw [String.toList_append, whole_append]
    refine ⟨titled, ?_⟩
    split
    · exact whole_nil
    · simp [below, edges]
  have boxed (row : List Char) (whole : Whole row) :
      Whole ('║' :: blanks 2 ++ padded (width - 2 - 4) row ++ blanks 2 ++ ['║']) := by
    simp [whole_padded whole, edges]
  simp only [List.forall_mem_append, List.forall_mem_cons, List.forall_mem_map]
  refine ⟨⟨?_, fun row among => boxed row (rows row among)⟩, ?_⟩ <;> simp [edges, rule]

theorem sectionRule_shows {title : String} {icon : Option String} (reads : Reads (withIcon icon title)) :
    Shows (sectionRule width title icon) := by
  obtain ⟨t, read, whole⟩ := reads
  have rule (n : Nat) : Whole (List.replicate n '─') := whole_replicate n (by decide)
  have blank : ' ' ≠ Text.standInMark := by decide
  have bare : Shows (.ok (toTexts [[], List.replicate width '─', []])) := ⟨_, rfl, by simp [rule]⟩
  have plain : Whole (t.map fun c => if c = '\n' then ' ' else c) := by
    intro member
    obtain ⟨c, among, same⟩ := List.mem_map.mp member
    split at same
    · exact absurd same (by decide)
    · exact whole (same ▸ among)
  unfold sectionRule
  dsimp only
  rw [read]
  split
  · exact bare
  · split
    · exact bare
    · exact ⟨_, rfl, by simp [rule, blank, whole_truncated (whole_expandTabs plain)]⟩

/-! ## Tables -/

namespace Table

theorem mapM_ok {α β ε : Type} {f : α → Except ε β} {Q : β → Prop} {items : List α}
    (each : ∀ a ∈ items, ∃ b, f a = .ok b ∧ Q b) : ∃ results, items.mapM f = .ok results ∧ ∀ b ∈ results, Q b := by
  induction items with
  | nil => exact ⟨[], rfl, nofun⟩
  | cons a rest ih =>
      rw [List.forall_mem_cons] at each
      obtain ⟨b, first, good⟩ := each.1
      obtain ⟨results, others, all⟩ := ih each.2
      refine ⟨b :: results, ?_, List.forall_mem_cons.mpr ⟨good, all⟩⟩
      rw [List.mapM_cons, first, others]
      rfl

theorem rowLines_whole {widths : List Nat} {cells : List Cell} (whole : ∀ cell ∈ cells, ∀ line ∈ cell, Whole line) :
    ∀ line ∈ rowLines (some clearBox) widths cells, Whole line := by
  have blank : ' ' ≠ Text.standInMark := by decide
  intro line among
  obtain ⟨n, -, rfl⟩ := List.mem_map.mp among
  have part (w : Nat) (cell : Cell) (member : cell ∈ cells) :
      Whole (blanks padding ++ padded (w - 2 * padding) ((cell[n]?).getD []) ++ blanks padding) := by
    have line : Whole ((cell[n]?).getD []) := by
      cases found : cell[n]? with
      | none => exact whole_nil
      | some line => exact whole cell member line (List.mem_of_getElem? found)
    simp [whole_padded line]
  change Whole (' ' :: _ ++ [' '])
  rw [whole_append, whole_cons, whole_cons]
  refine ⟨⟨blank, whole_intercalate blank fun text among => ?_⟩, blank, whole_nil⟩
  obtain ⟨⟨w, cell⟩, both, rfl⟩ := List.mem_map.mp among
  exact part w cell (List.of_mem_zip both).2

theorem across_whole (widths : List Nat) : Whole (clearBox.top.across widths) := by
  have blank : ' ' ≠ Text.standInMark := by decide
  rw [BoxLine.across, whole_append, whole_cons, whole_cons]
  refine ⟨⟨blank, whole_intercalate blank fun part among => ?_⟩, blank, whole_nil⟩
  obtain ⟨w, -, rfl⟩ := List.mem_map.mp among
  exact whole_replicate w blank

theorem filled_ok {t : Table} (reads : ∀ j, ∀ text ∈ t.columnTexts j, Reads text) :
    ∃ columns, t.filled = .ok columns ∧ ∀ column ∈ columns, ∀ cell ∈ column.cells, ∀ line ∈ cell, Whole line := by
  refine mapM_ok fun j _ => ?_
  have each : ∀ text ∈ t.columnTexts j, ∃ cell, cellOf text = .ok cell ∧ ∀ line ∈ cell, Whole line := by
    intro text among
    obtain ⟨plain, read, whole⟩ := reads j text among
    exact ⟨_, by rw [cellOf, read]; rfl, whole_textLines whole⟩
  obtain ⟨cells, made, whole⟩ := mapM_ok each
  exact ⟨⟨(t.columnAt j).rigid, cells⟩, by rw [made]; rfl, whole⟩

theorem ofPairs_shows {pairs : List (String × Option String)}
    (reads : ∀ pair ∈ pairs, Reads pair.1 ∧ Reads (pair.2.getD "[dim]N/A[/dim]")) :
    Shows ((ofPairs none pairs).lines width) := by
  have texts : ∀ j, ∀ text ∈ (ofPairs none pairs).columnTexts j, Reads text := by
    intro j text among
    obtain ⟨row, row_mem, rfl⟩ := List.mem_map.mp among
    obtain ⟨⟨key, value⟩, pair_mem, rfl⟩ := List.mem_map.mp row_mem
    obtain ⟨first, second⟩ := reads _ pair_mem
    match j with
    | 0 => exact first
    | 1 => exact second
    | j + 2 => exact ⟨[], rfl, whole_nil⟩
  obtain ⟨columns, made, whole⟩ := filled_ok texts
  by_cases bare : (ofPairs none pairs).columnCount = 0
  · refine ⟨[[]], ?_, by simp⟩
    rw [lines, if_pos bare]
    rfl
  · -- Without a title and a header, there are only the rows between two edges.
    have rows : ∃ found count, (ofPairs none pairs).lines width = .ok (toTexts ([clearBox.top.across found] ++
        ((List.range count).map fun n => rowLines (some clearBox) found
          (columns.map fun column => (column.cells[n]?).getD [])).flatten ++ [clearBox.top.across found])) := by
      rw [lines, if_neg bare, made]
      exact ⟨_, _, rfl⟩
    obtain ⟨found, count, rows⟩ := rows
    refine ⟨_, rows, ?_⟩
    simp only [List.forall_mem_append, List.forall_mem_singleton]
    refine ⟨⟨across_whole found, fun line among => ?_⟩, across_whole found⟩
    obtain ⟨_, row, within⟩ := List.mem_flatten.mp among
    obtain ⟨n, -, rfl⟩ := List.mem_map.mp row
    refine rowLines_whole (fun cell among => ?_) line within
    obtain ⟨column, column_mem, rfl⟩ := List.mem_map.mp among
    cases there : column.cells[n]? with
    | none => exact nofun
    | some cell => exact whole column column_mem cell (List.mem_of_getElem? there)

end Table

end PluginKit.Console
