import PluginKit.Console.Page
import PluginKit.Proofs.Text.Lines

/-!
Messages as they are printed. A message is a styled text: what reads as a tag is left out, or ends everything if it closes
what is not open. A text is printed as it is if nothing in it reads as anything else, and if no pictographs are named in
it only then.
-/

namespace PluginKit

namespace Markup

def isUntagged (slash : Bool) : List Char → Bool
  | [] => true
  | c :: rest => (c != '[' || (!slash && (readTag? rest).isNone)) && isUntagged (c == '\\') rest

def Piece.words : Piece → List Char
  | .text s => s
  | .tag _ _ => []

def texts (pieces : List Piece) : List Char := pieces.flatMap Piece.words

/-! ## Cutting a text -/

inductive Scan (steps : Nat) (between : List Char) : List Char → List Piece → Prop
  | ending (k : Nat) :
      Scan steps between (List.replicate k '\\') [.text (between.reverse ++ List.replicate k '\\')]
  | escaped {content rest : List Char} {k position : Nat} (odd : k % 2 = 1) :
      Scan steps between (List.replicate k '\\' ++ '[' :: (content ++ ']' :: rest))
        (.text between.reverse :: .text (List.replicate (k / 2) '\\') :: .text ('[' :: content ++ [']']) ::
          piecesWithin steps position [] rest)
  | tagged {content rest : List Char} {k position next : Nat} (even : k % 2 ≠ 1)
      (read : readTag? (content ++ ']' :: rest) = some (content, rest)) :
      Scan steps between (List.replicate k '\\' ++ '[' :: (content ++ ']' :: rest))
        (.text between.reverse :: .text (List.replicate (k / 2) '\\') :: .tag content position ::
          piecesWithin steps next [] rest)
  | bracket {inner : List Char} {k position : Nat} (unread : readTag? inner = none) :
      Scan steps between (List.replicate k '\\' ++ '[' :: inner)
        (piecesWithin steps position ('[' :: List.replicate (k - 1) '\\' ++ between) inner)
  | other {c : Char} {rest : List Char} {k position : Nat} (open' : c ≠ '[') (slash : c ≠ '\\') :
      Scan steps between (List.replicate k '\\' ++ c :: rest)
        (piecesWithin steps position (c :: List.replicate k '\\' ++ between) rest)

theorem readTag?_eq_some {s content rest : List Char} (read : readTag? s = some (content, rest)) :
    s = content ++ ']' :: rest := by
  have whole := List.prefix_iff_eq_append.mp (List.takeWhile_prefix (l := s) fun c => c ≠ ']' && c ≠ '[')
  unfold readTag? at read
  dsimp only at read
  split at read
  · rename_i c tail later start ending
    split at read
    · cases read
      rw [← ending, whole]
    · cases read
  · cases read

theorem exists_slashes (s : List Char) : ∃ k rest, s = List.replicate k '\\' ++ rest ∧
    s.takeWhile (· = '\\') = List.replicate k '\\' ∧ rest.head? ≠ some '\\' := by
  induction s with
  | nil => exact ⟨0, [], rfl, rfl, nofun⟩
  | cons c s ih =>
      by_cases slash : c = '\\'
      · obtain ⟨k, rest, split, slashes, other⟩ := ih
        refine ⟨k + 1, rest, ?_, ?_, other⟩
        · rw [slash, split, List.replicate_succ, List.cons_append]
        · rw [List.takeWhile_cons_of_pos (by simpa using slash), slashes, slash, List.replicate_succ]
      · exact ⟨0, c :: s, rfl, List.takeWhile_cons_of_neg (by simpa using slash), by simpa using slash⟩

theorem piecesWithin_scan (steps position : Nat) (between s : List Char) :
    Scan steps between s (piecesWithin (steps + 1) position between s) := by
  obtain ⟨k, rest, rfl, slashes, other⟩ := exists_slashes s
  have dropped : (List.replicate k '\\' ++ rest).drop k = rest := List.drop_left' List.length_replicate
  rw [piecesWithin]
  simp only [slashes, List.length_replicate, dropped]
  cases rest with
  | nil =>
      rw [List.append_nil]
      exact .ending k
  | cons c rest =>
      by_cases bracket : c = '['
      · subst bracket
        cases read : readTag? rest with
        | none =>
            simp only [read, List.drop_replicate]
            exact .bracket read
        | some found =>
            obtain ⟨content, later⟩ := found
            obtain rfl := readTag?_eq_some read
            simp only [read, List.take_replicate, Nat.min_eq_left (Nat.div_le_self k 2)]
            by_cases odd : k % 2 = 1
            · rw [if_pos odd]
              exact .escaped odd
            · rw [if_neg odd]
              exact .tagged odd read
      · have shape := fun slash : c = '\\' => other (by rw [slash]; rfl)
        split
        · rename_i impossible
          cases impossible
        · rename_i same
          cases same
          exact absurd rfl bracket
        · rename_i same
          cases same
          exact .other bracket shape

theorem isUntagged_slashes (slash : Bool) (k : Nat) (s : List Char) :
    isUntagged slash (List.replicate k '\\' ++ s) = isUntagged (slash || 0 < k) s := by
  induction k generalizing slash with
  | zero => simp
  | succ k ih =>
      rw [List.replicate_succ, List.cons_append, isUntagged, ih]
      simp

def isMark (c : Char) : Bool := c == '[' || c == '\\'

theorem piecesWithin_cases {steps : Nat} (position : Nat) (between : List Char) {s : List Char}
    (enough : s.length < steps) :
    isUntagged false s = true ∧ piecesWithin steps position between s = [.text (between.reverse ++ s)] ∨
      isUntagged false s = false ∧
        (texts (piecesWithin steps position between s)).countP isMark < (between.reverse ++ s).countP isMark := by
  induction steps generalizing position between s with
  | zero => cases enough
  | succ steps ih =>
      have fewer (position : Nat) (between : List Char) {rest : List Char} (enough : rest.length < steps) :
          (texts (piecesWithin steps position between rest)).countP isMark ≤ (between.reverse ++ rest).countP isMark := by
        rcases ih position between enough with ⟨-, whole⟩ | ⟨-, lost⟩
        · rw [whole]
          simp [texts, Piece.words]
        · exact Nat.le_of_lt lost
      have scan := piecesWithin_scan steps position between s
      generalize piecesWithin (steps + 1) position between s = pieces at scan ⊢
      cases scan with
      | ending k =>
          have kept := isUntagged_slashes false k []
          rw [List.append_nil] at kept
          exact .inl ⟨kept, rfl⟩
      | @escaped content rest k p odd =>
          have left := fewer p [] (by simp at enough; omega : rest.length < steps)
          have positive : 0 < k := by omega
          refine .inr ⟨by simp [isUntagged_slashes, isUntagged, positive], ?_⟩
          simp [texts, Piece.words, isMark, List.countP_replicate] at left ⊢
          omega
      | @tagged content rest k p next even read =>
          have left := fewer next [] (by simp at enough; omega : rest.length < steps)
          refine .inr ⟨by simp [isUntagged_slashes, isUntagged, read], ?_⟩
          simp [texts, Piece.words, isMark, List.countP_replicate] at left ⊢
          omega
      | @bracket inner k p unread =>
          have short : inner.length < steps := by simp at enough; omega
          by_cases zero : k = 0
          · subst zero
            simpa [isUntagged, unread] using ih p ('[' :: between) short
          · have positive : 0 < k := Nat.pos_of_ne_zero zero
            have left := fewer p ('[' :: List.replicate (k - 1) '\\' ++ between) short
            refine .inr ⟨by simp [isUntagged_slashes, isUntagged, positive], ?_⟩
            simp [isMark, List.countP_replicate] at left ⊢
            omega
      | @other c rest k p open' slash =>
          have lost : isUntagged false (List.replicate k '\\' ++ c :: rest) = isUntagged false rest := by
            simp [isUntagged_slashes, isUntagged, bne, beq_eq_false_iff_ne.mpr open', beq_eq_false_iff_ne.mpr slash]
          have split : (c :: List.replicate k '\\' ++ between).reverse ++ rest =
              between.reverse ++ (List.replicate k '\\' ++ c :: rest) := by simp
          rw [lost, ← split]
          exact ih p _ (by simp at enough; omega)

theorem mem_texts {steps position : Nat} {between s : List Char} {c : Char}
    (member : c ∈ texts (piecesWithin steps position between s)) : c ∈ between ∨ c ∈ s := by
  induction steps generalizing position between s with
  | zero => simpa [piecesWithin, texts, Piece.words] using Or.inl member
  | succ steps ih =>
      have scan := piecesWithin_scan steps position between s
      generalize piecesWithin (steps + 1) position between s = pieces at scan member
      cases scan with
      | ending k => simpa [texts, Piece.words] using member
      | @escaped content rest k p odd =>
          have later : c ∈ texts (piecesWithin steps p [] rest) → c ∈ [] ∨ c ∈ rest := ih
          simp only [texts, List.flatMap_cons, Piece.words, List.mem_append, List.mem_replicate] at member later ⊢
          grind
      | @tagged content rest k p next even read =>
          have later : c ∈ texts (piecesWithin steps next [] rest) → c ∈ [] ∨ c ∈ rest := ih
          simp only [texts, List.flatMap_cons, Piece.words, List.mem_append, List.mem_replicate] at member later ⊢
          grind
      | @bracket inner k p none =>
          have later := ih member
          simp only [List.cons_append, List.mem_cons, List.mem_append, List.mem_replicate] at later ⊢
          grind
      | @other d rest k p open' slash =>
          have later := ih member
          simp only [List.cons_append, List.mem_cons, List.mem_append, List.mem_replicate] at later ⊢
          grind

/-! ## Plain texts -/

def Nameless (s : List Char) : Prop := ∀ u, .text u ∈ pieces s → Text.withEmojis u = u

theorem plainOf_eq_texts {pieces : List Piece} {opened : List Tag} {t : List Char}
    (unnamed : ∀ u, .text u ∈ pieces → Text.withEmojis u = u) (read : plainOf opened pieces = .ok t) :
    t = texts pieces := by
  induction pieces generalizing opened t with
  | nil =>
      cases read
      rfl
  | cons piece rest ih =>
      have later : ∀ u, .text u ∈ rest → Text.withEmojis u = u := fun u member => unnamed u (List.mem_cons_of_mem _ member)
      cases piece with
      | text u =>
          rw [plainOf] at read
          cases found : plainOf opened rest with
          | error fault =>
              rw [found] at read
              cases read
          | ok t' =>
              rw [found] at read
              cases read
              rw [unnamed u List.mem_cons_self, ih later found]
              rfl
      | tag content position =>
          rw [plainOf] at read
          cases stepped : step content position opened with
          | error fault =>
              rw [stepped] at read
              cases read
          | ok opened' =>
              rw [stepped] at read
              exact ih later read

/-- Nothing in a text reads as anything but itself. -/
def isLiteral (s : List Char) : Bool :=
  isUntagged false s && Text.withEmojis s == s && s.all fun c => !isControl c && c != '\t'

theorem pieces_untagged {s : List Char} (untagged : isUntagged false s = true) : pieces s = [.text s] := by
  rcases piecesWithin_cases 0 [] (Nat.lt_succ_self s.length) with ⟨-, whole⟩ | ⟨tagged, -⟩
  · exact whole
  · rw [untagged] at tagged
    cases tagged

theorem plain_untagged {s : List Char} (untagged : isUntagged false s = true) :
    plain s = .ok (withoutControls (Text.withEmojis s)) := by
  rw [plain, pieces_untagged untagged, plainOf, plainOf]
  exact congrArg (fun t => Except.ok (withoutControls t)) (List.append_nil (Text.withEmojis s))

theorem printable_of_literal {s : List Char} (literal : isLiteral s = true) :
    ∀ c ∈ s, isControl c = false ∧ c ≠ '\t' := by
  simp only [isLiteral, Bool.and_eq_true, List.all_eq_true] at literal
  intro c member
  simpa using literal.2 c member

theorem plain_of_literal {s : List Char} (literal : isLiteral s = true) : plain s = .ok s := by
  have printable := printable_of_literal literal
  simp only [isLiteral, Bool.and_eq_true, beq_iff_eq] at literal
  rw [plain_untagged literal.1.1, literal.1.2]
  exact congrArg Except.ok (List.filter_eq_self.mpr fun c member => by simp [(printable c member).1])

theorem plain_eq_ok {s t : List Char} (nameless : Nameless s) (read : plain s = .ok t) :
    t = withoutControls (texts (pieces s)) := by
  unfold plain at read
  cases found : plainOf [] (pieces s) with
  | error fault =>
      rw [found] at read
      cases read
  | ok t' =>
      rw [found] at read
      cases read
      rw [plainOf_eq_texts nameless found]

theorem untagged_of_plain {s : List Char} (nameless : Nameless s) (same : plain s = .ok s) :
    isUntagged false s = true := by
  rcases piecesWithin_cases 0 [] (Nat.lt_succ_self s.length) with ⟨untagged, -⟩ | ⟨-, lost⟩
  · exact untagged
  · have less : (withoutControls (texts (pieces s))).countP isMark ≤ (texts (pieces s)).countP isMark :=
      List.filter_sublist.countP_le
    rw [← plain_eq_ok nameless same] at less
    exact absurd (Nat.lt_of_le_of_lt less lost) (Nat.lt_irrefl _)

theorem literal_of_plain {s : List Char} (nameless : Nameless s) (same : plain s = .ok s) (untabbed : '\t' ∉ s) :
    isLiteral s = true := by
  have untagged := untagged_of_plain nameless same
  have whole := pieces_untagged untagged
  have named : Text.withEmojis s = s := nameless s (by rw [whole]; exact List.mem_singleton_self _)
  have kept := plain_eq_ok nameless same
  have printed : ∀ c ∈ s, isControl c = false := by
    intro c member
    rw [kept] at member
    simpa using (List.mem_filter.mp member).2
  simp only [isLiteral, untagged, named, beq_self_eq_true, Bool.true_and, List.all_eq_true]
  intro c member
  have apart : c ≠ '\t' := fun tab => untabbed (tab ▸ member)
  simp [printed c member, apart]

end Markup

/-! ## Printed messages -/

namespace Console

def printed (lines : List String) : String := String.join (lines.map (· ++ "\n"))

theorem expandTabs_of_not_mem {line : List Char} (absent : '\t' ∉ line) : expandTabs line = line := by
  rw [expandTabs, Text.splitAt_single absent, joinAtStops]

theorem mem_joinAtStops {position : Nat} {pieces : List (List Char)} {c : Char}
    (member : c ∈ joinAtStops position pieces) : c = ' ' ∨ ∃ piece ∈ pieces, c ∈ piece := by
  fun_induction joinAtStops position pieces with
  | case1 => cases member
  | case2 position last => exact .inr ⟨last, List.mem_cons_self, member⟩
  | case3 position piece rest _ reached gap ih =>
      rcases List.mem_append.mp member with first | later
      · rcases List.mem_append.mp first with here | blank
        · exact .inr ⟨piece, List.mem_cons_self, here⟩
        · exact .inl (List.eq_of_mem_replicate blank)
      · exact (ih later).imp_right fun found => by
          obtain ⟨piece', among, within⟩ := found
          exact ⟨piece', List.mem_cons_of_mem _ among, within⟩

theorem tab_not_mem_expandTabs (line : List Char) : '\t' ∉ expandTabs line := by
  intro member
  rcases mem_joinAtStops member with blank | ⟨piece, among, within⟩
  · exact absurd blank (by decide)
  · exact (Text.mem_of_mem_splitAt among within).2 rfl

theorem toList_printed (lines : List (List Char)) : (printed (toTexts lines)).toList = lines.flatMap (· ++ ['\n']) := by
  simp [printed, toTexts, List.flatMap_map]

theorem printed_textLines {s : List Char} (printable : ∀ c ∈ s, Markup.isControl c = false ∧ c ≠ '\t') :
    printed (toTexts (textLines s)) = String.ofList s ++ "\n" := by
  have kept : Markup.withoutControls s = s := List.filter_eq_self.mpr fun c member => by simp [(printable c member).1]
  have same : (Text.splitAt '\n' s).map expandTabs = Text.splitAt '\n' s := by
    refine (List.map_congr_left fun line among => expandTabs_of_not_mem fun tab => ?_).trans (List.map_id _)
    exact (printable _ (Text.mem_of_mem_splitAt among tab).1).2 rfl
  rw [← String.toList_inj, toList_printed, textLines, kept, same, Text.flatMap_splitAt]
  simp

theorem say_warning (body : String) :
    say .warning body none = (Markup.plain body.toList).map fun text => toTexts (textLines ('⚠' :: ' ' :: text)) := by
  have mark (text : List Char) : Mood.warning.icon.toList ++ [' '] ++ text ++ [] = '⚠' :: ' ' :: text := by
    simp [Mood.icon]
  have bare : Mood.warning.dress body = body := rfl
  rw [say, message, bare]
  cases Markup.plain body.toList with
  | error fault => rfl
  | ok text => exact congrArg (fun s => Except.ok (toTexts (textLines s))) (mark text)

theorem mark_printable {text : List Char} (printable : ∀ c ∈ text, Markup.isControl c = false ∧ c ≠ '\t') :
    ∀ c ∈ '⚠' :: ' ' :: text, Markup.isControl c = false ∧ c ≠ '\t' := by
  simp only [List.forall_mem_cons]
  exact ⟨by decide, by decide, printable⟩

theorem warning_of_plain {body : String} {t : List Char} (read : Markup.plain body.toList = .ok t)
    (printable : ∀ c ∈ t, Markup.isControl c = false ∧ c ≠ '\t') :
    ∃ lines, say .warning body none = .ok lines ∧ printed lines = "⚠ " ++ String.ofList t ++ "\n" := by
  rw [say_warning, read]
  refine ⟨_, rfl, ?_⟩
  rw [printed_textLines (mark_printable printable), ← String.toList_inj]
  simp

theorem literal_of_warning {body : String} {lines : List String} (nameless : Markup.Nameless body.toList)
    (said : say .warning body none = .ok lines) (same : printed lines = "⚠ " ++ body ++ "\n") :
    Markup.isLiteral body.toList = true := by
  rw [say_warning] at said
  cases read : Markup.plain body.toList with
  | error fault =>
      rw [read] at said
      cases said
  | ok t =>
      rw [read] at said
      cases said
      have text := Markup.plain_eq_ok nameless read
      have untabbed : '\t' ∉ body.toList := by
        intro member
        have within : '\t' ∈ (printed (toTexts (textLines ('⚠' :: ' ' :: t)))).toList := by
          rw [same]
          simp [member]
        rw [toList_printed, textLines, List.mem_flatMap] at within
        obtain ⟨line, among, within⟩ := within
        obtain ⟨whole, -, rfl⟩ := List.mem_map.mp among
        rcases List.mem_append.mp within with inside | ends
        · exact tab_not_mem_expandTabs whole inside
        · simp at ends
      have printable : ∀ c ∈ t, Markup.isControl c = false ∧ c ≠ '\t' := by
        intro c member
        rw [text] at member
        obtain ⟨kept, plain⟩ := List.mem_filter.mp member
        refine ⟨by simpa using plain, fun tab => untabbed ?_⟩
        rw [← tab]
        exact (Markup.mem_texts kept).resolve_left List.not_mem_nil
      rw [printed_textLines (mark_printable printable), ← String.toList_inj] at same
      have equal : t = body.toList := by simpa using same
      rw [equal] at read
      exact Markup.literal_of_plain nameless read untabbed

end Console

end PluginKit
