import Mathlib.Data.List.Basic
import PluginKit.Text.Lines
import PluginKit.Text.Surrogate

/-!
Lines of texts. Cutting at every kind of line end leaves none in a line, and a text put together from lines is cut
into them again at the line feeds.
-/

namespace PluginKit.Text

theorem lines_unbroken (s : List Char) : ∀ line ∈ lines s, ∀ c ∈ line, isLineEnd c = false := by
  fun_induction lines s with
  | case1 => simp
  | case2 rest ih =>
      intro line member
      rcases List.mem_cons.mp member with rfl | later
      · simp
      · exact ih line later
  | case3 c rest _ ends ih =>
      intro line member
      rcases List.mem_cons.mp member with rfl | later
      · simp
      · exact ih line later
  | case4 c rest _ inside none ih =>
      intro line member d within
      obtain rfl := List.mem_singleton.mp member
      obtain rfl := List.mem_singleton.mp within
      simpa using inside
  | case5 c rest _ inside first others split ih =>
      intro line member d within
      rw [split] at ih
      rcases List.mem_cons.mp member with rfl | later
      · rcases List.mem_cons.mp within with rfl | further
        · simpa using inside
        · exact ih first List.mem_cons_self d further
      · exact ih line (List.mem_cons_of_mem _ later) d within

theorem trim_subset (s : List Char) : trim s ⊆ s := by
  have front : trimStart s ⊆ s := (List.dropWhile_suffix _).subset
  have back : trimEnd (trimStart s) ⊆ trimStart s := by
    intro c member
    rw [trimEnd, List.mem_reverse] at member
    exact List.mem_reverse.mp ((List.dropWhile_suffix _).subset member)
  exact List.Subset.trans back front

theorem flatten_pieces (s : List Char) : (pieces s).flatten = s := by
  fun_induction pieces s with
  | case1 => rfl
  | case2 c => rfl
  | case3 d rest ih => simp [ih]
  | case4 c d rest plain ih => simp [ih]

theorem takeCodes_subset (n : Nat) (s : List Char) : takeCodes n s ⊆ s := by
  intro c member
  obtain ⟨piece, taken, within⟩ := List.mem_flatten.mp member
  rw [← flatten_pieces s]
  exact List.mem_flatten.mpr ⟨piece, List.mem_of_mem_take taken, within⟩

/-! ## Between line feeds -/

def rows (s : List Char) : List (List Char) := s.splitOn '\n'

theorem rows_single {s : List Char} (whole : '\n' ∉ s) : rows s = [s] := List.splitOn_eq_singleton whole

theorem rows_append (s rest : List Char) : rows (s ++ '\n' :: rest) = rows s ++ rows rest :=
  List.splitOn_append_cons_self s rest

theorem rows_intercalate {parts : List (List Char)} (filled : parts ≠ []) :
    rows (['\n'].intercalate parts) = parts.flatMap rows := by
  induction parts with
  | nil => exact absurd rfl filled
  | cons part rest ih =>
      cases rest with
      | nil => simp
      | cons next others =>
          rw [List.intercalate_cons_cons, List.append_assoc, List.singleton_append, rows_append, ih (by simp)]
          rfl

theorem rows_paragraphs {parts : List (List Char)} (filled : parts ≠ []) :
    rows (['\n', '\n'].intercalate parts) = [[]].intercalate (parts.map rows) := by
  induction parts with
  | nil => exact absurd rfl filled
  | cons part rest ih =>
      cases rest with
      | nil => simp
      | cons next others =>
          have blank : rows [] = [[]] := rfl
          have split : part ++ ['\n', '\n'] ++ ['\n', '\n'].intercalate (next :: others) =
              part ++ '\n' :: ([] ++ '\n' :: ['\n', '\n'].intercalate (next :: others)) := by simp
          rw [List.intercalate_cons_cons, split, rows_append, rows_append, ih (by simp), blank, List.map_cons,
            List.map_cons, List.map_cons, List.intercalate_cons_cons, List.append_assoc]

theorem infix_intercalate {α : Type} {part : List α} {parts : List (List α)} (sep : List α) (member : part ∈ parts) :
    part <:+: sep.intercalate parts := by
  apply List.infix_of_mem_flatten
  induction parts with
  | nil => cases member
  | cons first rest ih =>
      rcases List.mem_cons.mp member with rfl | later
      · cases rest <;> simp
      · obtain ⟨next, others, rfl⟩ := List.exists_cons_of_ne_nil (List.ne_nil_of_mem later)
        simp [ih later]

def startsWith (start : String) (row : List Char) : Bool := start.toList.isPrefixOf row

variable {parts : List (List (List Char))} {row : List Char}

theorem mem_of_mem_paragraphs (member : row ∈ [[]].intercalate parts) : row = [] ∨ ∃ part ∈ parts, row ∈ part := by
  induction parts with
  | nil => simp at member
  | cons part rest ih =>
      cases rest with
      | nil => exact .inr ⟨part, by simp, by simpa using member⟩
      | cons next others =>
          rw [List.intercalate_cons_cons, List.append_assoc, List.mem_append, List.mem_append] at member
          rcases member with here | blank | later
          · exact .inr ⟨part, List.mem_cons_self, here⟩
          · exact .inl (List.mem_singleton.mp blank)
          · rcases ih later with blank | ⟨found, among, here⟩
            · exact .inl blank
            · exact .inr ⟨found, List.mem_cons_of_mem _ among, here⟩

theorem filter_paragraphs {p : List Char → Bool} (blank : p [] = false) :
    ([[]].intercalate parts).filter p = parts.flatMap (List.filter p) := by
  induction parts with
  | nil => rfl
  | cons part rest ih =>
      cases rest with
      | nil => simp
      | cons next others =>
          rw [List.intercalate_cons_cons, List.append_assoc, List.filter_append, List.filter_append, ih,
            List.filter_cons, blank]
          rfl

/-! ## Pieces between separators -/

theorem splitAt_eq_splitOn (separator : Char) (s : List Char) : splitAt separator s = s.splitOn separator := by
  induction s with
  | nil => rfl
  | cons c rest ih =>
      rw [splitAt, ih, List.splitOn_cons_eq_if_modifyHead]
      by_cases ends : c = separator
      · simp [ends]
      · rw [if_neg ends, if_neg (by simpa using ends)]
        cases split : rest.splitOn separator with
        | nil => exact absurd split (List.splitOn_ne_nil _ _)
        | cons piece others => rfl

theorem splitAt_ne_nil (separator : Char) (s : List Char) : splitAt separator s ≠ [] := by
  rw [splitAt_eq_splitOn]
  exact List.splitOn_ne_nil _ _

theorem splitAt_single {separator : Char} {s : List Char} (absent : separator ∉ s) : splitAt separator s = [s] := by
  rw [splitAt_eq_splitOn, List.splitOn_eq_singleton absent]

theorem mem_of_mem_splitAt {separator c : Char} {s piece : List Char} (member : piece ∈ splitAt separator s)
    (within : c ∈ piece) : c ∈ s ∧ c ≠ separator := by
  fun_induction splitAt separator s generalizing piece with
  | case1 => simp_all
  | case2 rest ih =>
      rcases List.mem_cons.mp member with rfl | later
      · cases within
      · exact (ih later within).imp_left (List.mem_cons_of_mem _)
  | case3 d rest other none ih =>
      obtain rfl := List.mem_singleton.mp member
      obtain rfl := List.mem_singleton.mp within
      exact ⟨List.mem_cons_self, other⟩
  | case4 d rest other first others split ih =>
      rw [split] at ih
      rcases List.mem_cons.mp member with rfl | later
      · rcases List.mem_cons.mp within with rfl | further
        · exact ⟨List.mem_cons_self, other⟩
        · exact (ih List.mem_cons_self further).imp_left (List.mem_cons_of_mem _)
      · exact (ih (List.mem_cons_of_mem _ later) within).imp_left (List.mem_cons_of_mem _)

theorem flatMap_splitAt (separator : Char) (s : List Char) :
    (splitAt separator s).flatMap (· ++ [separator]) = s ++ [separator] := by
  induction s with
  | nil => rfl
  | cons c rest ih =>
      rw [splitAt]
      by_cases ends : c = separator
      · rw [if_pos ends, List.flatMap_cons, ih, ends]
        rfl
      · rw [if_neg ends]
        cases split : splitAt separator rest with
        | nil => exact absurd split (splitAt_ne_nil _ _)
        | cons piece others =>
            rw [split] at ih
            simpa using ih

/-! ## Line ends of files -/

theorem not_mem_universalNewlines (s : List Char) : '\r' ∉ universalNewlines s := by
  fun_induction universalNewlines s with
  | case1 => exact List.not_mem_nil
  | case2 rest ih => simpa using ih
  | case3 c rest _ ih =>
      rw [List.mem_cons, not_or]
      refine ⟨?_, ih⟩
      split
      · decide
      · rename_i other
        exact Ne.symm other

theorem universalNewlines_eq_self_iff (s : List Char) : universalNewlines s = s ↔ '\r' ∉ s := by
  constructor
  · intro same
    rw [← same]
    exact not_mem_universalNewlines s
  · intro absent
    fun_induction universalNewlines s with
    | case1 => rfl
    | case2 rest ih => exact absurd List.mem_cons_self absent
    | case3 c rest _ ih =>
        rw [List.mem_cons, not_or] at absent
        rw [ih absent.2, if_neg (Ne.symm absent.1)]

end PluginKit.Text
