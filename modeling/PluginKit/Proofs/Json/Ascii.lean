import PluginKit.Json.Printer
import PluginKit.Proofs.Text.Utf8

/-!
JSON texts are written in ASCII. So no text that a value is written as can fail to be encoded.
-/

namespace PluginKit

def Text.IsAscii (chars : List Char) : Prop := ∀ c ∈ chars, c.toNat < 128

instance (chars : List Char) : Decidable (Text.IsAscii chars) :=
  List.decidableBAll (fun c : Char => c.toNat < 128) chars

namespace Text.IsAscii

theorem nil : IsAscii [] := by
  intro c member
  cases member

theorem cons {c : Char} {rest : List Char} (first : c.toNat < 128) (others : IsAscii rest) :
    IsAscii (c :: rest) := by
  intro d member
  cases member with
  | head => exact first
  | tail _ member => exact others d member

theorem append {s t : List Char} (left : IsAscii s) (right : IsAscii t) : IsAscii (s ++ t) := by
  intro c member
  rcases List.mem_append.mp member with member | member
  · exact left c member
  · exact right c member

theorem of_subset {s t : List Char} (all : IsAscii t) (part : s ⊆ t) : IsAscii s :=
  fun c member => all c (part member)

theorem replicate {c : Char} (small : c.toNat < 128) (n : Nat) : IsAscii (List.replicate n c) := by
  intro d member
  rwa [(List.mem_replicate.mp member).2]

theorem flatMap {α : Type} (items : List α) (f : α → List Char) (each : ∀ a, IsAscii (f a)) :
    IsAscii (items.flatMap f) := by
  intro c member
  obtain ⟨a, -, member⟩ := List.mem_flatMap.mp member
  exact each a c member

theorem digits (n : Nat) : IsAscii (Nat.toDigits 10 n) := by
  intro c member
  have digit := Nat.isDigit_of_mem_toDigits (by decide) (by decide) member
  simp only [Char.isDigit, Bool.and_eq_true, decide_eq_true_eq] at digit
  have upper := UInt32.le_iff_toNat_le.mp digit.2
  exact Nat.lt_of_le_of_lt upper (by decide)

theorem hexDigit (n : Nat) (small : n < 16) : (hexDigit n).toNat < 128 := by
  have all : ∀ k : Fin 16, (Text.hexDigit k).toNat < 128 := by decide
  exact all ⟨n, small⟩

theorem hex (width n : Nat) : IsAscii (hex width n) := by
  induction width generalizing n with
  | zero => exact nil
  | succ width ih =>
      exact append (ih (n / 16)) (cons (hexDigit _ (Nat.mod_lt _ (by decide))) nil)

end Text.IsAscii

/-! ## Numbers -/

namespace Binary64

open Text

theorem significant_isAscii {digits : List Char} (all : IsAscii digits) :
    IsAscii (significant digits) := by
  apply all.of_subset
  intro c member
  rw [significant, List.mem_reverse] at member
  exact List.mem_reverse.mp ((List.dropWhile_sublist _).subset member)

theorem exponentText_isAscii (e : Int) : IsAscii (exponentText e) := by
  refine .cons (by decide) (.cons (by split <;> decide) ?_)
  split
  · exact .cons (by decide) (.digits _)
  · exact .digits _

theorem write_isAscii (layout : Layout) (d : Decimal) : IsAscii (layout.write d) := by
  have digits : IsAscii (significant (Nat.toDigits 10 d.digits)) := significant_isAscii (.digits _)
  unfold Layout.write
  dsimp only
  split
  · split
    · exact .append (.cons (by decide) (.cons (by decide) (.replicate (by decide) _))) digits
    · split
      · exact .append (.append digits (.replicate (by decide) _)) (.cons (by decide) (.cons (by decide) .nil))
      · exact .append (digits.of_subset (List.take_subset _ _))
          (.cons (by decide) (digits.of_subset (List.drop_subset _ _)))
  · split
    · exact .nil
    · rename_i c only
      rw [only] at digits
      exact .cons (digits c List.mem_cons_self) (exponentText_isAscii _)
    · rename_i c rest _ several
      rw [several] at digits
      exact .cons (digits c List.mem_cons_self) (.cons (by decide)
        (.append (digits.of_subset (List.subset_cons_self _ _)) (exponentText_isAscii _)))

theorem text_isAscii (x : Binary64) : IsAscii x.text.toList := by
  unfold text
  split
  · decide
  · have size : IsAscii (if x.isInfinite then ['i', 'n', 'f']
        else if x.isZero then ['0', '.', '0'] else plainLayout.write x.shortest) := by
      split
      · decide
      · split
        · decide
        · exact write_isAscii _ _
    rw [String.toList_ofList]
    split
    · exact .cons (by decide) size
    · exact size

end Binary64

/-! ## Values -/

namespace Json

open Text

theorem printCode_isAscii (n : Nat) : IsAscii (printCode n) := by
  unfold printCode
  dsimp only
  repeat' split
  all_goals try decide
  · rename_i plain
    simp only [Bool.and_eq_true, decide_eq_true_eq] at plain
    have all : ∀ k : Fin 127, (Char.ofNat k).toNat < 128 := by decide
    exact .cons (all ⟨n, plain.2⟩) .nil
  · exact .cons (by decide) (.cons (by decide) (.hex _ _))
  · exact .append (.cons (by decide) (.cons (by decide) (.hex _ _)))
      (.cons (by decide) (.cons (by decide) (.hex _ _)))

theorem printText_isAscii (s : String) : IsAscii (printText s) :=
  .append (.cons (by decide) (.flatMap _ _ printCode_isAscii)) (by decide)

theorem printInt_isAscii (n : Int) : IsAscii (printInt n) := by
  unfold printInt
  split
  · exact .cons (by decide) (.digits _)
  · exact .digits _

theorem printFloat_isAscii (x : Binary64) : IsAscii (printFloat x) := by
  unfold printFloat
  repeat' split
  all_goals try decide
  exact Binary64.text_isAscii x

theorem printFlag_isAscii (b : Bool) : IsAscii (printFlag b) := by
  cases b <;> decide

theorem printKey_isAscii (k : Key) : IsAscii (printKey k) := by
  cases k with
  | text s => exact printText_isAscii s
  | int n => exact .append (.cons (by decide) (printInt_isAscii n)) (by decide)
  | float x => exact .append (.cons (by decide) (printFloat_isAscii x)) (by decide)
  | flag b => exact .append (.cons (by decide) (printFlag_isAscii b)) (by decide)
  | null => decide
  | _ => exact .cons (by decide) (.cons (by decide) .nil)

mutual

theorem print_isAscii (v : Value) : IsAscii (print v) := by
  cases v with
  | null => decide
  | flag b => exact printFlag_isAscii b
  | int n => exact printInt_isAscii n
  | float x => exact printFloat_isAscii x
  | text s => exact printText_isAscii s
  | bytes _ => exact .nil
  | date _ => exact .nil
  | moment _ => exact .nil
  | set _ => exact .nil
  | pair a b =>
      exact .append (.append (.cons (by decide) (print_isAscii a))
        (.cons (by decide) (.cons (by decide) (print_isAscii b)))) (by decide)
  | list items => exact .append (.cons (by decide) (printItems_isAscii items)) (by decide)
  | object fields => exact .append (.cons (by decide) (printFields_isAscii fields)) (by decide)

theorem printItems_isAscii (items : List Value) : IsAscii (printItems items) := by
  match items with
  | [] => exact .nil
  | [v] => exact print_isAscii v
  | v :: w :: rest =>
      exact .append (print_isAscii v) (.cons (by decide) (.cons (by decide) (printItems_isAscii (w :: rest))))

theorem printFields_isAscii (fields : List (Key × Value)) : IsAscii (printFields fields) := by
  match fields with
  | [] => exact .nil
  | [(k, v)] =>
      exact .append (printKey_isAscii k) (.cons (by decide) (.cons (by decide) (print_isAscii v)))
  | (k, v) :: field :: rest =>
      exact .append (printKey_isAscii k) (.cons (by decide) (.cons (by decide)
        (.append (print_isAscii v)
          (.cons (by decide) (.cons (by decide) (printFields_isAscii (field :: rest)))))))

end

def bytes (v : Value) : List UInt8 := Utf8.bytes (text v)

theorem unmarked_text (v : Value) : (text v).contains standInMark = false := by
  rw [String.contains_char_eq, decide_eq_false_iff_not, text, String.toList_ofList]
  intro member
  exact absurd (print_isAscii v _ member) (by decide)

theorem encodeStrict_text (v : Value) : Utf8.encodeStrict (text v) = .ok (bytes v) :=
  Utf8.encodeStrict_of_unmarked (unmarked_text v)

end Json

end PluginKit
