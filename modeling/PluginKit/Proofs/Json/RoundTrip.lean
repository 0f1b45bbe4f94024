import Mathlib.Data.List.Chain
import PluginKit.Proofs.Json.Reading
import PluginKit.Proofs.Schema.Fields

/-!
What is printed as JSON is read back: whole numbers, texts of any code points, arrays, and objects with their fields
in order.
-/

namespace PluginKit

/-! ## Code points -/

namespace Text

def IsPair (high low : Nat) : Prop := (0xd800 ≤ high ∧ high < 0xdc00) ∧ 0xdc00 ≤ low ∧ low < 0xe000

structure Spells (points : List Nat) (s : String) : Prop where
  chars : s.toList = points.flatMap charsOfCode
  valid : ∀ n ∈ points, n < 0x110000
  whole : points.IsChain fun a b => ¬ IsPair a b

theorem toNat_ofNat {n : Nat} (valid : n < 0x110000) (scalar : isSurrogate n = false) : (Char.ofNat n).toNat = n := by
  have proper : n.isValidChar := by
    simp only [isSurrogate, Bool.and_eq_false_iff, decide_eq_false_iff_not] at scalar
    simp only [Nat.isValidChar]
    omega
  rw [Char.ofNat, dif_pos proper]
  rfl

theorem charsOfCode_scalar {n : Nat} (scalar : isSurrogate n = false) (plain : n ≠ standInMark.toNat) :
    charsOfCode n = [Char.ofNat n] := by
  rw [charsOfCode, scalar, if_neg (by simp), if_neg plain]

theorem codes_cons {n : Nat} (valid : n < 0x110000) (rest : List Char) :
    codes (charsOfCode n ++ rest) = n :: codes rest := by
  cases surrogate : isSurrogate n with
  | true =>
      have bounds : 0xd800 ≤ n ∧ n < 0xe000 := by simpa [isSurrogate] using surrogate
      have scalar : isSurrogate (standInShift + n) = false := by
        have beyond : ¬ 0x100000 + n < 0xe000 := by omega
        rw [isSurrogate, standInShift, decide_eq_false beyond, Bool.and_false]
      have back : standsFor (Char.ofNat (standInShift + n)) = n := by
        rw [standsFor, toNat_ofNat (by simp only [standInShift]; omega) scalar, Nat.add_sub_cancel_left,
          if_pos surrogate]
      rw [charsOfCode, if_pos surrogate, List.cons_append, List.cons_append, List.nil_append, codes, pieces_cons_mark,
        List.map_cons, codeOfPiece, back, codes]
  | false =>
      by_cases plain : n = standInMark.toNat
      · subst plain
        have back : standsFor (Char.ofNat (standInShift + 0xfffe)) = standInMark.toNat := by decide
        rw [charsOfCode_mark, List.cons_append, List.cons_append, List.nil_append, codes, pieces_cons_mark,
          List.map_cons, codeOfPiece, back, codes]
      · have own := toNat_ofNat valid surrogate
        have other : Char.ofNat n ≠ standInMark := fun same => plain (own.symm.trans (congrArg Char.toNat same))
        rw [charsOfCode_scalar surrogate plain, List.singleton_append, codes, pieces_cons other, List.map_cons,
          codeOfPiece, own, codes]

theorem Spells.codes {points : List Nat} {s : String} (spells : Spells points s) : codes s.toList = points := by
  obtain ⟨chars, valid, -⟩ := spells
  rw [chars]
  clear chars
  induction points with
  | nil => rfl
  | cons n rest ih =>
      rw [List.flatMap_cons, codes_cons (valid n List.mem_cons_self),
        ih fun m member => valid m (List.mem_cons_of_mem n member)]

theorem spells_held (t : String) : Spells (t.toList.map Char.toNat) (held t) where
  chars := by
    rw [List.flatMap_map]
    cases marked : t.contains standInMark with
    | true => rw [held, if_pos marked, String.toList_ofList]
    | false =>
        rw [held_of_unmarked marked]
        rw [String.contains_char_eq, decide_eq_false_iff_not] at marked
        have own : ∀ c ∈ t.toList, charsOfCode c.toNat = [c] := by
          intro c member
          refine charsOfCode_toNat fun same => ?_
          exact marked (same ▸ member)
        rw [List.flatMap_congr own, List.flatMap_singleton']
  valid := by
    intro n member
    obtain ⟨c, -, rfl⟩ := List.mem_map.mp member
    have valid := c.valid
    simp only [UInt32.isValidChar, Nat.isValidChar] at valid
    simp only [Char.toNat]
    omega
  whole := by
    refine (List.pairwise_of_forall_mem_list ?_).isChain
    rintro a member b - ⟨⟨low, high⟩, -⟩
    obtain ⟨c, -, rfl⟩ := List.mem_map.mp member
    have scalar := isSurrogate_toNat c
    simp only [isSurrogate, Bool.and_eq_false_iff, decide_eq_false_iff_not] at scalar
    omega

theorem hexValue?_hexDigit : ∀ n < 16, hexValue? (hexDigit n) = some n := by decide

end Text

namespace Json

open Text

variable {limits : Limits} {depth steps : Nat} {opening rest after : List Char}

/-! ## Texts -/

theorem readQuad_hex {n : Nat} (small : n < 0x10000) (c : Char) (rest : List Char) :
    readQuad (hex 4 n ++ c :: rest) = some (n, c :: rest) := by
  have digit : ∀ m, hexValue? (hexDigit (m % 16)) = some (m % 16) :=
    fun m => hexValue?_hexDigit _ (Nat.mod_lt m (by decide))
  have sum : ((16 * (n / 16 / 16 / 16 % 16) + n / 16 / 16 % 16) * 16 + n / 16 % 16) * 16 + n % 16 = n := by omega
  simp only [hex, List.nil_append, List.cons_append, readQuad, digit, Option.bind_eq_bind, Option.bind_some, sum,
    Option.pure_def]

theorem eq_toNat_of_ofNat {n : Nat} {c : Char} (same : Char.ofNat n = c) (other : c ≠ '\x00') : n = c.toNat := by
  by_cases proper : n.isValidChar
  · rw [← same, Char.ofNat, dif_pos proper]
    rfl
  · rw [Char.ofNat, dif_neg proper] at same
    exact absurd same.symm other

theorem printCode_cases (limits : Limits) (n : Nat) :
    (∃ c, printCode n = ['\\', c] ∧ c ≠ 'u' ∧
      ∀ opening rest, readEscape limits opening (c :: rest) = .ok (charsOfCode n, rest)) ∨
    (∃ c, printCode n = [c] ∧ charsOfCode n = [c] ∧ c ≠ '\x22' ∧ c ≠ '\\' ∧ 0x20 ≤ c.toNat) ∨
    (n < 0x10000 ∧ printCode n = '\\' :: 'u' :: hex 4 n) ∨
    (0x10000 ≤ n ∧ printCode n = surrogates n) := by
  by_cases special : n = 34 ∨ n = 92 ∨ n = 10 ∨ n = 13 ∨ n = 9 ∨ n = 8 ∨ n = 12
  · rcases special with rfl | rfl | rfl | rfl | rfl | rfl | rfl
    all_goals exact .inl ⟨_, rfl, by decide, fun _ _ => rfl⟩
  · simp only [not_or] at special
    obtain ⟨n34, n92, n10, n13, n9, n8, n12⟩ := special
    have quote : Char.ofNat n ≠ '\x22' := fun same => n34 (eq_toNat_of_ofNat same (by decide))
    have backslash : Char.ofNat n ≠ '\\' := fun same => n92 (eq_toNat_of_ofNat same (by decide))
    have feed : Char.ofNat n ≠ '\n' := fun same => n10 (eq_toNat_of_ofNat same (by decide))
    have carriage : Char.ofNat n ≠ '\r' := fun same => n13 (eq_toNat_of_ofNat same (by decide))
    have tab : Char.ofNat n ≠ '\t' := fun same => n9 (eq_toNat_of_ofNat same (by decide))
    rw [printCode, if_neg quote, if_neg backslash, if_neg feed, if_neg carriage, if_neg tab, if_neg n8, if_neg n12]
    simp only [Bool.and_eq_true, decide_eq_true_eq]
    by_cases visible : 0x20 ≤ n ∧ n < 0x7f
    · have scalar : isSurrogate n = false := by
        simp [isSurrogate]
        omega
      have plain : n ≠ standInMark.toNat := by
        rw [show standInMark.toNat = 0x9fffe from rfl]
        omega
      rw [if_pos visible]
      refine .inr (.inl ⟨_, rfl, charsOfCode_scalar scalar plain, quote, backslash, ?_⟩)
      rw [toNat_ofNat (by omega) scalar]
      exact visible.1
    · rw [if_neg visible]
      by_cases small : n < 0x10000
      · exact .inr (.inr (.inl ⟨small, if_pos small⟩))
      · exact .inr (.inr (.inr ⟨Nat.le_of_not_lt small, if_neg small⟩))

theorem pairCode_halves (m : Nat) : pairCode (0xd800 + m / 0x400) (0xdc00 + m % 0x400) = 0x10000 + m := by
  have halves := Nat.div_add_mod m 0x400
  generalize high : 0xd800 + m / 0x400 = a
  generalize low : 0xdc00 + m % 0x400 = b
  unfold pairCode
  omega

theorem readLow_hex {n : Nat} (small : n < 0x10000) (c : Char) (rest : List Char) :
    readLow ('\\' :: 'u' :: (hex 4 n ++ c :: rest)) =
      if 0xdc00 ≤ n ∧ n < 0xe000 then .ok (some (n, c :: rest)) else .ok none := by
  have long : ¬ (hex 4 n ++ c :: rest).length < 5 := by simp [hex]
  simp only [readLow, if_neg long, readQuad_hex small, Bool.and_eq_true, decide_eq_true_eq]

theorem readLow_printed {points : List Nat} (valid : ∀ n ∈ points, n < 0x110000)
    (other : ∀ n ∈ points.head?, ¬ (0xdc00 ≤ n ∧ n < 0xe000)) (rest : List Char) :
    readLow (points.flatMap printCode ++ '\x22' :: rest) = .ok none := by
  -- Only the escape of a low surrogate completes a high one.
  cases points with
  | nil => rfl
  | cons n points =>
      have bound := valid n List.mem_cons_self
      obtain ⟨d, more, next⟩ := List.exists_cons_of_ne_nil
        (show points.flatMap printCode ++ '\x22' :: rest ≠ [] by simp)
      rw [List.flatMap_cons, List.append_assoc, next]
      rcases printCode_cases ⟨0, true, true⟩ n with
        ⟨c, printed, apart, -⟩ | ⟨c, printed, -, -, apart, -⟩ | ⟨small, printed⟩ | ⟨large, printed⟩
      · rw [printed, List.cons_append, List.cons_append, readLow]
        intro tail same
        exact apart (List.cons.inj (List.cons.inj same).2).1
      · rw [printed, List.cons_append, readLow]
        intro tail same
        exact apart (List.cons.inj same).1
      · rw [printed, List.cons_append, List.cons_append, readLow_hex small, if_neg (other n rfl)]
      · rw [printed, surrogates, List.append_assoc, List.cons_append, List.cons_append, List.cons_append, readLow_hex,
          if_neg] <;> omega

theorem readText_escape {found text last s : List Char} (escaped : readEscape limits opening s = .ok (found, after))
    (read : readText limits opening after = .ok (text, last)) :
    readText limits opening ('\\' :: s) = .ok (found ++ text, last) := by
  rw [readText, if_neg (by decide), if_pos rfl]
  split
  · rename_i fault failed
    rw [escaped] at failed
    cases failed
  · rename_i d next done
    rw [escaped] at done
    cases done
    rw [read]

theorem readText_printCode {n : Nat} {text last : List Char} (valid : n < 0x110000) (lone : limits.lone = true)
    (alone : 0xd800 ≤ n ∧ n < 0xdc00 → readLow after = .ok none)
    (read : readText limits opening after = .ok (text, last)) :
    readText limits opening (printCode n ++ after) = .ok (charsOfCode n ++ text, last) := by
  obtain ⟨d, more, next⟩ : ∃ d more, after = d :: more := by
    refine List.exists_cons_of_ne_nil fun empty => ?_
    rw [empty, readText] at read
    cases read
  rcases printCode_cases limits n with
    ⟨c, printed, -, escaped⟩ | ⟨c, printed, own, quote, escape, visible⟩ | ⟨small, printed⟩ | ⟨large, printed⟩
  · rw [printed, List.cons_append]
    exact readText_escape (escaped _ _) read
  · rw [printed, List.singleton_append, readText, if_neg quote, if_neg escape, if_neg (Nat.not_lt.mpr visible), read,
      own, List.singleton_append]
  · rw [printed, List.cons_append]
    refine readText_escape ?_ read
    rw [List.cons_append, readEscape, next, readQuad_hex small, ← next]
    simp only [loneUnit, lone, Bool.not_true, Bool.and_false, Bool.false_eq_true, if_false, Bool.and_eq_true,
      decide_eq_true_eq]
    split
    · rename_i high
      rw [alone high]
    · rfl
  · rw [printed, surrogates, List.cons_append, List.cons_append]
    refine readText_escape ?_ read
    rw [List.append_assoc, List.cons_append, List.cons_append, List.cons_append, readEscape, readQuad_hex (by omega),
      next]
    simp only [readLow_hex (show 0xdc00 + (n - 0x10000) % 0x400 < 0x10000 by omega)]
    rw [if_pos (by simp; omega), if_pos (by omega)]
    simp only [pairCode_halves, Nat.add_sub_of_le large]

theorem readText_printed {points : List Nat} (valid : ∀ n ∈ points, n < 0x110000)
    (whole : points.IsChain fun a b => ¬ IsPair a b) (lone : limits.lone = true) :
    readText limits opening (points.flatMap printCode ++ '\x22' :: rest) = .ok (points.flatMap charsOfCode, rest) := by
  induction points with
  | nil =>
      rw [List.flatMap_nil, List.nil_append, readText]
      rfl
  | cons n points ih =>
      have others := fun m member => valid m (List.mem_cons_of_mem n member)
      rw [List.flatMap_cons, List.flatMap_cons, List.append_assoc]
      refine readText_printCode (valid n List.mem_cons_self) lone (fun high => ?_) (ih others whole.of_cons)
      refine readLow_printed others (fun m first low => ?_) rest
      cases points with
      | nil => cases first
      | cons m' points =>
          cases first
          exact (List.isChain_cons_cons.mp whole).1 ⟨high, low⟩

theorem readText_printText {points : List Nat} {s : String} (spells : Spells points s) (lone : limits.lone = true)
    (opening rest : List Char) :
    readText limits opening ((Text.codes s.toList).flatMap printCode ++ '\x22' :: rest) = .ok (s.toList, rest) := by
  rw [spells.codes, readText_printed spells.valid spells.whole lone, spells.chars]

/-! ## Numbers -/

def Ends (rest : List Char) : Prop := ∀ c ∈ rest.head?, c = ',' ∨ c = ']' ∨ c = '\x7d'

theorem isAsciiDigit_of_mem {n : Nat} {c : Char} (member : c ∈ Nat.toDigits 10 n) : isAsciiDigit c = true :=
  Nat.isDigit_of_mem_toDigits (by decide) (by decide) member

theorem digitValue?_ascii {c : Char} (digit : isAsciiDigit c = true) : digitValue? c = some (c.toNat - 48) := by
  have bounds : 48 ≤ c.toNat ∧ c.toNat ≤ 48 + 9 := by
    simpa [isAsciiDigit, Char.le_def, UInt32.le_iff_toNat_le] using digit
  rw [digitValue?, digitZeros, List.find?_cons_of_pos (by simpa using bounds), Option.map_some]

theorem decimalValue_toDigits (n : Nat) : decimalValue (Nat.toDigits 10 n) = n := by
  calc decimalValue (Nat.toDigits 10 n) = Nat.ofDigitChars 10 (Nat.toDigits 10 n) 0 := by
        refine List.foldl_ext _ _ _ fun total c member => ?_
        rw [digitValue?_ascii (isAsciiDigit_of_mem member)]
        rfl
    _ = n := Nat.ofDigitChars_toDigits (by decide) (by decide)

theorem head?_toDigits {n : Nat} (positive : 0 < n) : (Nat.toDigits 10 n).head? ≠ some '0' := by
  induction n using Nat.strongRecOn with
  | ind n ih =>
      by_cases small : n < 10
      · rw [Nat.toDigits_of_lt_base small]
        simp
        omega
      · have more := ih (n / 10) (by omega) (by omega)
        rw [Nat.toDigits_of_base_le (by decide) (by omega), List.head?_append]
        cases first : (Nat.toDigits 10 (n / 10)).head? with
        | none => exact absurd (List.head?_eq_none_iff.mp first) Nat.toDigits_ne_nil
        | some c =>
            rw [first] at more
            exact more

theorem spanDigits_append {digits : List Char} (all : ∀ c ∈ digits, isAsciiDigit c = true)
    (ends : ∀ c ∈ rest.head?, isAsciiDigit c = false) : spanDigits (digits ++ rest) = (digits, rest) := by
  have stop : rest.takeWhile isAsciiDigit = [] ∧ rest.dropWhile isAsciiDigit = rest := by
    cases rest with
    | nil => exact ⟨rfl, rfl⟩
    | cons c rest => simp [ends c rfl]
  rw [spanDigits, List.takeWhile_append_of_pos all, List.dropWhile_append_of_pos all, stop.1, stop.2, List.append_nil]

theorem readWhole_toDigits (n : Nat) (ends : ∀ c ∈ rest.head?, isAsciiDigit c = false) :
    readWhole (Nat.toDigits 10 n ++ rest) = some (Nat.toDigits 10 n, rest) := by
  rcases Nat.eq_zero_or_pos n with rfl | positive
  · rw [Nat.toDigits_zero]
    rfl
  · have all := fun c => isAsciiDigit_of_mem (n := n) (c := c)
    have first := head?_toDigits positive
    have span := spanDigits_append all ends
    obtain ⟨c, digits, shape⟩ := List.exists_cons_of_ne_nil (Nat.toDigits_ne_nil (b := 10) (n := n))
    rw [shape] at all first span ⊢
    have other : c ≠ '0' := fun zero => first (congrArg some zero)
    rw [List.cons_append, readWhole, if_neg other, if_pos (all c List.mem_cons_self), ← List.cons_append, span]

theorem readUnsigned_toDigits {n : Nat} (negative : Bool) (short : Whole.exceeds (Nat.toDigits 10 n) = false)
    (ends : Ends rest) :
    readUnsigned negative (Nat.toDigits 10 n ++ rest) = some (.ok (.int (if negative then -n else n)), rest) := by
  have stop : ∀ c ∈ rest.head?, isAsciiDigit c = false := by
    intro c first
    rcases ends c first with rfl | rfl | rfl <;> rfl
  have fraction : readFraction rest = ([], rest) := by
    cases rest with
    | nil => rfl
    | cons c rest => rcases ends c rfl with rfl | rfl | rfl <;> rfl
  have exponent : readExponent rest = (none, rest) := by
    cases rest with
    | nil => rfl
    | cons c rest => rcases ends c rfl with rfl | rfl | rfl <;> rfl
  rw [readUnsigned, readWhole_toDigits n stop]
  simp [fraction, exponent, short, decimalValue_toDigits]

theorem readConstant_digit {c : Char} (digit : isAsciiDigit c = true) (s : List Char) :
    readConstant (c :: s) = none ∧ readConstant ('-' :: c :: s) = none := by
  have apart : c ≠ 'n' ∧ c ≠ 't' ∧ c ≠ 'f' ∧ c ≠ 'N' ∧ c ≠ 'I' ∧ c ≠ '-' := by
    refine ⟨?_, ?_, ?_, ?_, ?_, ?_⟩ <;> rintro rfl <;> exact absurd digit (by decide)
  obtain ⟨n, t, f, nan, infinity, minus⟩ := apart
  simp [readConstant, constants, n.symm, t.symm, f.symm, nan.symm, infinity.symm, minus.symm]

theorem readScalar_printInt {n : Int} (short : unwritableInt? n = none) (ends : Ends rest) :
    readScalar (printInt n ++ rest) = .ok (.int n, rest) := by
  have fits : Whole.exceeds (Nat.toDigits 10 n.natAbs) = false := by
    simpa [unwritableInt?] using short
  have digit : ∀ c ∈ Nat.toDigits 10 n.natAbs, isAsciiDigit c = true := fun c => isAsciiDigit_of_mem
  have read := fun negative => readUnsigned_toDigits negative fits ends
  obtain ⟨c, digits, shape⟩ := List.exists_cons_of_ne_nil (Nat.toDigits_ne_nil (b := 10) (n := n.natAbs))
  rw [shape] at digit
  obtain ⟨bare, signed⟩ := readConstant_digit (digit c List.mem_cons_self) (digits ++ rest)
  have unsigned : readNumber (c :: (digits ++ rest)) = readUnsigned false (c :: (digits ++ rest)) := by
    rw [readNumber]
    rintro tail same
    cases (List.cons.inj same).1
    exact absurd (digit '-' List.mem_cons_self) (by decide)
  by_cases negative : n < 0
  · rw [printInt, if_pos negative, List.cons_append, readScalar, shape, List.cons_append, signed, readNumber,
      ← List.cons_append, ← shape, read true]
    have back : -(n.natAbs : Int) = n := by omega
    exact congrArg (fun m => Except.ok (Value.int m, rest)) back
  · rw [printInt, if_neg negative, readScalar, shape, List.cons_append, bare, unsigned, ← List.cons_append, ← shape,
      read false]
    have back : (n.natAbs : Int) = n := by omega
    exact congrArg (fun m => Except.ok (Value.int m, rest)) back

/-! ## Values -/

/-- Data of JSON with whole numbers, in which at most `d` arrays and objects are inside each other. -/
inductive IsData : Nat → Value → Prop where
  | null {d : Nat} : IsData d .null
  | flag {d : Nat} (b : Bool) : IsData d (.flag b)
  | int {d : Nat} (n : Int) : IsData d (.int n)
  | text {d : Nat} {points : List Nat} {s : String} (spells : Spells points s) : IsData d (.text s)
  | list {d : Nat} {items : List Value} (each : ∀ v ∈ items, IsData d v) : IsData (d + 1) (.list items)
  | object {d : Nat} {fields : Fields} (nodup : (fields.map Prod.fst).Nodup)
      (names : ∀ field ∈ fields, ∃ name points, field.1 = .text name ∧ Spells points name)
      (each : ∀ field ∈ fields, IsData d field.2) : IsData (d + 1) (.object fields)

structure Returns (limits : Limits) (d : Nat) (v : Value) : Prop where
  starts : ∃ c s, print v = c :: s ∧ isSpace c = false ∧ c ≠ ']' ∧ c ≠ '\uFEFF'
  reads : ∀ depth steps rest, Ends rest → depth + d ≤ limits.depth → 2 * (print v).length ≤ steps →
    readValueWithin limits depth steps (print v ++ rest) = .ok (v, rest)

variable {d : Nat} {v : Value} {items : List Value} {fields : Fields}

theorem skipSpace_blank (s : List Char) : skipSpace (' ' :: s) = skipSpace s :=
  List.dropWhile_cons_of_pos rfl

theorem Returns.skipSpace (returns : Returns limits d v) (s : List Char) : skipSpace (print v ++ s) = print v ++ s := by
  obtain ⟨c, t, shape, dense, -⟩ := returns.starts
  rw [shape, List.cons_append, skipSpace_cons dense]

theorem printItems_cons (v : Value) (items : List Value) : ∃ s, printItems (v :: items) = print v ++ s := by
  cases items with
  | nil => exact ⟨[], by rw [printItems, List.append_nil]⟩
  | cons w rest => exact ⟨_, by rw [printItems]⟩

theorem ends_comma (s : List Char) : Ends (',' :: s) := fun _ first => .inl (Option.some.inj first).symm

theorem ends_bracket (s : List Char) : Ends (']' :: s) := fun _ first => .inr (.inl (Option.some.inj first).symm)

theorem ends_brace (s : List Char) : Ends ('\x7d' :: s) := fun _ first => .inr (.inr (Option.some.inj first).symm)

theorem readItems_printed (each : ∀ v ∈ items, Returns limits d v) (filled : items ≠ [])
    (shallow : depth + d ≤ limits.depth) (enough : 2 * (printItems items).length < steps) (rest : List Char) :
    readItemsWithin limits depth steps (printItems items ++ ']' :: rest) = .ok (items, rest) := by
  induction items generalizing steps with
  | nil => exact absurd rfl filled
  | cons v items ih =>
      obtain ⟨steps, rfl⟩ : ∃ fewer, steps = fewer + 1 := ⟨steps - 1, by omega⟩
      have read := (each v List.mem_cons_self).reads depth steps
      have others := fun w member => each w (List.mem_cons_of_mem v member)
      cases items with
      | nil =>
          rw [printItems] at enough ⊢
          rw [readItemsWithin, read _ (ends_bracket rest) shallow (by omega)]
          simp only [skipSpace_cons (c := ']') rfl]
      | cons w items =>
          rw [printItems, List.length_append, List.length_cons, List.length_cons] at enough
          have onward := ih others (by simp) (show _ < steps by omega)
          obtain ⟨s, first⟩ := printItems_cons w items
          have next : skipSpace (printItems (w :: items) ++ ']' :: rest) = printItems (w :: items) ++ ']' :: rest := by
            rw [first, List.append_assoc, (others w List.mem_cons_self).skipSpace]
          rw [printItems, readItemsWithin, List.append_assoc, List.cons_append, List.cons_append,
            read _ (ends_comma _) shallow (by omega)]
          simp only [skipSpace_cons (c := ',') rfl, skipSpace_blank, next, onward]

theorem returns_list (each : ∀ v ∈ items, Returns limits d v) : Returns limits (d + 1) (.list items) where
  starts := ⟨_, _, by rw [print, List.cons_append], rfl, by decide, by decide⟩
  reads := by
    intro depth steps rest ends shallow enough
    rw [print, List.cons_append, List.length_cons, List.length_append, List.length_singleton] at enough
    obtain ⟨steps, rfl⟩ : ∃ fewer, steps = fewer + 1 := ⟨steps - 1, by omega⟩
    rw [print, List.cons_append, List.cons_append, List.append_assoc, List.singleton_append, readValueWithin]
    have room := refuses_eq_false (show depth < limits.depth by omega)
    cases items with
    | nil =>
        rw [printItems, List.nil_append]
        simp only [skipSpace_cons (c := ']') rfl, room, Bool.false_eq_true, if_false]
    | cons v items =>
        have first := each v List.mem_cons_self
        have read := readItems_printed each (by simp) (show depth + 1 + d ≤ _ by omega) (show _ < steps by omega) rest
        obtain ⟨c, s, shape, -, other, -⟩ := first.starts
        obtain ⟨t, printed⟩ := printItems_cons v items
        have next : skipSpace (printItems (v :: items) ++ ']' :: rest) = printItems (v :: items) ++ ']' :: rest := by
          rw [printed, List.append_assoc, first.skipSpace]
        simp only [next, room, Bool.false_eq_true, if_false]
        rw [read]
        rw [printed, shape]
        split
        · rename_i after same
          exact absurd (List.cons.inj same).1 other
        · rfl

theorem printText_cons (s : String) : ∃ t, printText s = '\x22' :: t := ⟨_, List.cons_append⟩

theorem printFields_cons {name : String} (value : Value) (rest : Fields) :
    ∃ s, printFields ((.text name, value) :: rest) = '\x22' :: s := by
  obtain ⟨t, shape⟩ := printText_cons name
  cases rest with
  | nil => exact ⟨t ++ _, (printFields.eq_2 (.text name) value).trans (congrArg (· ++ _) shape)⟩
  | cons field rest => exact ⟨t ++ _, (printFields.eq_3 (.text name) value field rest).trans (congrArg (· ++ _) shape)⟩

theorem readFields_printed (names : ∀ field ∈ fields, ∃ name points, field.1 = .text name ∧ Spells points name)
    (each : ∀ field ∈ fields, Returns limits d field.2) (filled : fields ≠ []) (lone : limits.lone = true)
    (shallow : depth + d ≤ limits.depth) (enough : 2 * (printFields fields).length < steps) (before : Fields)
    (rest : List Char) :
    readFieldsWithin limits depth steps before (printFields fields ++ '\x7d' :: rest) =
      .ok (fields.foldl (fun fields pair => fields.put pair.1 pair.2) before, rest) := by
  induction fields generalizing steps before with
  | nil => exact absurd rfl filled
  | cons field fields ih =>
      obtain ⟨steps, rfl⟩ : ∃ fewer, steps = fewer + 1 := ⟨steps - 1, by omega⟩
      obtain ⟨name, points, named, spells⟩ := names field List.mem_cons_self
      obtain ⟨key, value⟩ := field
      cases named
      have returns : Returns limits d value := each _ List.mem_cons_self
      have read := returns.reads depth steps
      have otherNames := fun other member => names other (List.mem_cons_of_mem (Key.text name, value) member)
      have others := fun other member => each other (List.mem_cons_of_mem (Key.text name, value) member)
      cases fields with
      | nil =>
          rw [printFields.eq_2] at enough
          simp only [printKey, printText, List.length_append, List.length_cons, List.length_nil] at enough
          simp only [printFields.eq_2, printKey, printText, List.cons_append, List.append_assoc, List.nil_append,
            readFieldsWithin, readText_printText spells lone, skipSpace_cons (c := ':') rfl, skipSpace_blank,
            returns.skipSpace, read _ (ends_brace rest) shallow (by omega), skipSpace_cons (c := '\x7d') rfl,
            String.ofList_toList, List.foldl_cons, List.foldl_nil]
      | cons next fields =>
          obtain ⟨nextName, -, nextNamed, -⟩ := otherNames next List.mem_cons_self
          obtain ⟨nextKey, nextValue⟩ := next
          cases nextNamed
          rw [printFields.eq_3] at enough
          simp only [printKey, printText, List.length_append, List.length_cons, List.length_nil] at enough
          have onward := ih otherNames others (by simp) (show _ < steps by omega) (before.put (.text name) value)
          obtain ⟨s, first⟩ := printFields_cons nextValue fields
          rw [first, List.cons_append] at onward
          rw [printFields.eq_3, first]
          simp only [printKey, printText, List.cons_append, List.append_assoc, List.nil_append,
            readFieldsWithin, readText_printText spells lone, skipSpace_cons (c := ':') rfl, skipSpace_blank,
            returns.skipSpace, read _ (ends_comma _) shallow (by omega), skipSpace_cons (c := ',') rfl,
            skipSpace_cons (c := '\x22') rfl, String.ofList_toList, onward, List.foldl_cons]

theorem returns_object (nodup : (fields.map Prod.fst).Nodup)
    (names : ∀ field ∈ fields, ∃ name points, field.1 = .text name ∧ Spells points name)
    (each : ∀ field ∈ fields, Returns limits d field.2) (lone : limits.lone = true) :
    Returns limits (d + 1) (.object fields) where
  starts := ⟨_, _, by rw [print, List.cons_append], rfl, by decide, by decide⟩
  reads := by
    intro depth steps rest ends shallow enough
    rw [print, List.cons_append, List.length_cons, List.length_append, List.length_singleton] at enough
    obtain ⟨steps, rfl⟩ : ∃ fewer, steps = fewer + 1 := ⟨steps - 1, by omega⟩
    rw [print, List.cons_append, List.cons_append, List.append_assoc, List.singleton_append, readValueWithin]
    have room := refuses_eq_false (show depth < limits.depth by omega)
    cases fields with
    | nil =>
        rw [printFields, List.nil_append]
        simp only [skipSpace_cons (c := '\x7d') rfl, room, Bool.false_eq_true, if_false]
    | cons field fields =>
        have read := readFields_printed names each (by simp) lone (show depth + 1 + d ≤ _ by omega)
          (show _ < steps by omega) [] rest
        have distinct : Fields.Distinct (field :: fields) := by
          refine ⟨fun field member => ?_, nodup⟩
          obtain ⟨name, -, named, -⟩ := names field member
          exact ⟨name, named⟩
        have put : (field :: fields).foldl (fun fields pair => Fields.put fields pair.1 pair.2) [] = field :: fields :=
          Fields.ofPairs_distinct distinct
        obtain ⟨name, -, named, -⟩ := names field List.mem_cons_self
        obtain ⟨key, value⟩ := field
        cases named
        obtain ⟨s, first⟩ := printFields_cons value fields
        rw [first, List.cons_append, put] at read
        simp only [first, List.cons_append, skipSpace_cons (c := '\x22') rfl, room, Bool.false_eq_true, if_false, read]
        rfl

/-! ## What can be written -/

theorem unwritableItem?_eq_none : unwritableItem? items = none ↔ ∀ v ∈ items, unwritable? v = none := by
  induction items with
  | nil => simp [unwritableItem?]
  | cons v items ih => simp [unwritableItem?, ih]

theorem unwritableField?_eq_none :
    unwritableField? fields = none ↔ ∀ field ∈ fields, unwritableKey? field.1 = none ∧ unwritable? field.2 = none := by
  induction fields with
  | nil => simp [unwritableField?]
  | cons field fields ih => simp [unwritableField?, ih, and_assoc]

theorem readValue_scalar {c : Char} (apart : c ≠ '\x22' ∧ c ≠ '[' ∧ c ≠ '\x7b') (s : List Char) :
    readValueWithin limits depth (steps + 1) (c :: s) = readScalar (c :: s) := by
  obtain ⟨quote, bracket, brace⟩ := apart
  rw [readValueWithin]
  · exact fun _ same => quote (List.cons.inj same).1
  · exact fun _ same => bracket (List.cons.inj same).1
  · exact fun _ same => brace (List.cons.inj same).1

theorem returns_scalar {c : Char} {s : List Char} (printed : print v = c :: s)
    (starts : isSpace c = false ∧ c ≠ ']' ∧ c ≠ '\uFEFF') (apart : c ≠ '\x22' ∧ c ≠ '[' ∧ c ≠ '\x7b')
    (read : ∀ rest, Ends rest → readScalar (print v ++ rest) = .ok (v, rest)) : Returns limits d v where
  starts := ⟨c, s, printed, starts⟩
  reads := by
    intro depth steps rest ends shallow enough
    rw [printed, List.length_cons] at enough
    obtain ⟨steps, rfl⟩ : ∃ fewer, steps = fewer + 1 := ⟨steps - 1, by omega⟩
    rw [← read rest ends, printed, List.cons_append, readValue_scalar apart]

theorem returns_int {n : Int} (short : unwritableInt? n = none) : Returns limits d (.int n) := by
  have first : ∃ c s, printInt n = c :: s ∧ (c = '-' ∨ isAsciiDigit c = true) := by
    rw [printInt]
    split
    · exact ⟨_, _, rfl, .inl rfl⟩
    · obtain ⟨c, digits, shape⟩ := List.exists_cons_of_ne_nil (Nat.toDigits_ne_nil (b := 10) (n := n.natAbs))
      exact ⟨c, digits, shape, .inr (isAsciiDigit_of_mem (shape ▸ List.mem_cons_self))⟩
  obtain ⟨c, s, printed, sort⟩ := first
  have differs : ∀ e, e ≠ '-' → isAsciiDigit e = false → c ≠ e := by
    rintro e minus other rfl
    rcases sort with rfl | digit
    · exact minus rfl
    · rw [other] at digit
      cases digit
  refine returns_scalar (by rw [print, printed]) ⟨?_, ?_, ?_⟩ ⟨?_, ?_, ?_⟩ fun rest ends =>
    readScalar_printInt short ends
  · simp only [isSpace, Bool.or_eq_false_iff, decide_eq_false_iff_not]
    refine ⟨⟨⟨?_, ?_⟩, ?_⟩, ?_⟩ <;> exact differs _ (by decide) (by decide)
  all_goals exact differs _ (by decide) (by decide)

theorem returns_text {points : List Nat} {s : String} (spells : Spells points s) (lone : limits.lone = true) :
    Returns limits d (.text s) where
  starts := by
    obtain ⟨t, shape⟩ := printText_cons s
    exact ⟨_, t, by rw [print, shape], rfl, by decide, by decide⟩
  reads := by
    intro depth steps rest ends shallow enough
    rw [print, printText, List.cons_append, List.length_cons] at enough
    obtain ⟨steps, rfl⟩ : ∃ fewer, steps = fewer + 1 := ⟨steps - 1, by omega⟩
    simp only [print, printText, List.cons_append, List.append_assoc, List.nil_append, readValueWithin,
      readText_printText spells lone, String.ofList_toList]

theorem IsData.returns (data : IsData d v) (writable : unwritable? v = none) (lone : limits.lone = true) :
    Returns limits d v := by
  induction data with
  | null => exact returns_scalar rfl (by decide) (by decide) fun _ _ => rfl
  | flag b =>
      cases b with
      | true => exact returns_scalar rfl (by decide) (by decide) fun _ _ => rfl
      | false => exact returns_scalar rfl (by decide) (by decide) fun _ _ => rfl
  | int n => exact returns_int (by rwa [unwritable?] at writable)
  | text spells => exact returns_text spells lone
  | list each ih =>
      rw [unwritable?, unwritableItem?_eq_none] at writable
      exact returns_list fun v member => ih v member (writable v member)
  | object nodup names each ih =>
      rw [unwritable?, unwritableField?_eq_none] at writable
      exact returns_object nodup names (fun field member => ih field member (writable field member).2) lone

theorem read_print (data : IsData d v) (writable : unwritable? v = none) (lone : limits.lone = true)
    (shallow : d ≤ limits.depth) : read limits (print v) = .ok v := by
  have returns := data.returns writable lone
  have again := returns.skipSpace []
  have value := returns.reads 0 (2 * (print v).length + 2) [] (fun _ member => nomatch member) (by omega) (by omega)
  rw [List.append_nil] at again value
  obtain ⟨c, s, shape, -, -, mark⟩ := returns.starts
  rw [read, again, value]
  · rfl
  · rintro rest same
    rw [shape] at same
    exact mark (List.cons.inj same).1

def Conveys (d : Nat) (data : List UInt8) (v : Value) : Prop :=
  ∃ s, Utf8.decode data = .ok s ∧ ∀ limits : Limits, limits.lone = true → d ≤ limits.depth →
    read limits s.toList = .ok v

theorem conveys_bytes (data : IsData d v) (writable : unwritable? v = none) : Conveys d (bytes v) v := by
  refine ⟨text v, ?_, fun limits lone shallow => ?_⟩
  · rw [bytes, Utf8.decode_bytes, held_of_unmarked (unmarked_text v)]
  · rw [text, String.toList_ofList, read_print data writable lone shallow]

end Json

end PluginKit
