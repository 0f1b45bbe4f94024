import Mathlib.Data.List.TakeDrop
import Mathlib.Data.List.TakeWhile
import PluginKit.Text.Utf8

/-!
Texts of whole characters survive their encoding. Such a text `t` is held as `Text.held t`; its bytes are
those of `t`, and decoding them gives the held text back.
-/

namespace PluginKit

namespace Text

theorem pieces_cons_mark (c : Char) (rest : List Char) :
    pieces (standInMark :: c :: rest) = [standInMark, c] :: pieces rest := by
  rw [pieces, if_pos rfl]

theorem pieces_cons {c : Char} (plain : c ≠ standInMark) (rest : List Char) :
    pieces (c :: rest) = [c] :: pieces rest := by
  cases rest with
  | nil => rfl
  | cons d rest => rw [pieces, if_neg plain]

theorem isSurrogate_toNat (c : Char) : isSurrogate c.toNat = false := by
  have valid := c.valid
  simp only [UInt32.isValidChar, Nat.isValidChar] at valid
  simp only [isSurrogate, Bool.and_eq_false_imp, decide_eq_true_eq, decide_eq_false_iff_not, Char.toNat]
  omega

theorem charsOfCode_toNat {c : Char} (plain : c ≠ standInMark) : charsOfCode c.toNat = [c] := by
  have other : c.toNat ≠ standInMark.toNat := fun same => plain (Char.toNat_inj.mp same)
  rw [charsOfCode, isSurrogate_toNat, if_neg (by simp), if_neg other, Char.ofNat_toNat]

theorem charsOfCode_mark :
    charsOfCode standInMark.toNat = [standInMark, Char.ofNat (standInShift + 0xfffe)] := by
  rw [charsOfCode, isSurrogate_toNat, if_neg (by simp), if_pos rfl]

theorem codes_flatMap (chars : List Char) :
    codes (chars.flatMap fun c => charsOfCode c.toNat) = chars.map Char.toNat := by
  induction chars with
  | nil => rfl
  | cons c rest ih =>
      rw [codes] at ih ⊢
      by_cases plain : c = standInMark
      · subst plain
        have back : standsFor (Char.ofNat (standInShift + 0xfffe)) = standInMark.toNat := by decide
        rw [List.flatMap_cons, charsOfCode_mark, List.cons_append, List.cons_append, List.nil_append,
          pieces_cons_mark, List.map_cons, ih, List.map_cons, codeOfPiece, back]
      · rw [List.flatMap_cons, charsOfCode_toNat plain, List.singleton_append, pieces_cons plain,
          List.map_cons, ih, List.map_cons, codeOfPiece]

theorem codes_append {chars : List Char} (unmarked : standInMark ∉ chars) (later : List Char) :
    codes (chars ++ later) = chars.map Char.toNat ++ codes later := by
  induction chars with
  | nil => rfl
  | cons c rest ih =>
      rw [List.mem_cons, not_or] at unmarked
      rw [List.cons_append, codes, pieces_cons (Ne.symm unmarked.1), List.map_cons, codeOfPiece, List.map_cons]
      exact congrArg (c.toNat :: ·) (ih unmarked.2)

theorem codes_held {t : String} (marked : t.contains standInMark = true) :
    codes (held t).toList = t.toList.map Char.toNat := by
  rw [held, if_pos marked, String.toList_ofList, codes_flatMap]

theorem held_of_unmarked {t : String} (unmarked : t.contains standInMark = false) : held t = t := by
  rw [held, unmarked, if_neg (by simp)]

theorem contains_held (t : String) : (held t).contains standInMark = t.contains standInMark := by
  cases marked : t.contains standInMark with
  | false => rw [held_of_unmarked marked, marked]
  | true =>
      rw [held, if_pos marked, String.contains_char_eq, decide_eq_true_eq, String.toList_ofList]
      rw [String.contains_char_eq, decide_eq_true_eq] at marked
      refine List.mem_flatMap.mpr ⟨standInMark, marked, ?_⟩
      rw [charsOfCode_mark]
      exact List.mem_cons_self

end Text

namespace Utf8

open Text

def bytes (t : String) : List UInt8 := t.toUTF8.data.toList

theorem bytes_append (s t : String) : bytes (s ++ t) = bytes s ++ bytes t := by
  simp [bytes, ByteArray.data_append]

theorem bytes_injective {s t : String} (same : bytes s = bytes t) : s = t := by
  simp only [bytes, String.toUTF8_eq_toByteArray, Array.toList_inj] at same
  exact String.toByteArray_inj.mp (ByteArray.ext same)

theorem encode_held (t : String) : encode (held t) = bytes t := by
  cases marked : t.contains standInMark with
  | false => simp [encode, marked, held_of_unmarked marked, bytes]
  | true =>
      have chars : (codes (held t).toList).filterMap
          (fun n => if isSurrogate n then none else some (Char.ofNat n)) = t.toList := by
        rw [codes_held marked, List.filterMap_map]
        have kept : ((fun n => if isSurrogate n then none else some (Char.ofNat n)) ∘ Char.toNat) =
            (some : Char → Option Char) := by
          funext c
          simp [isSurrogate_toNat]
        rw [kept, List.filterMap_some]
      simp only [encode, contains_held, marked, if_pos, chars, String.ofList_toList, bytes]

theorem encodeFault?_held (t : String) : encodeFault? (held t) = none := by
  cases marked : t.contains standInMark with
  | false => rw [encodeFault?, contains_held, marked, Bool.not_false, if_pos rfl]
  | true =>
      have whole : ∀ n ∈ codes (held t).toList, (!isSurrogate n) = true := by
        intro n member
        rw [codes_held marked] at member
        obtain ⟨c, -, rfl⟩ := List.mem_map.mp member
        rw [isSurrogate_toNat]
        rfl
      simp only [encodeFault?, contains_held, marked, Bool.not_true, Bool.false_eq_true, if_false,
        List.span_eq_takeWhile_dropWhile, List.dropWhile_eq_nil_iff.mpr whole]

theorem encodeFault?_eq_none_iff {s : String} : encodeFault? s = none ↔ ∀ n ∈ codes s.toList, isSurrogate n = false := by
  rw [encodeFault?]
  cases marked : s.contains standInMark with
  | false =>
      rw [String.contains_char_eq, decide_eq_false_iff_not] at marked
      rw [← List.append_nil s.toList, codes_append marked]
      simp [codes, pieces, isSurrogate_toNat]
  | true =>
      have whole : (codes s.toList).dropWhile (fun n => !isSurrogate n) = [] ↔
          ∀ n ∈ codes s.toList, isSurrogate n = false := by simp
      rw [← whole, Bool.not_true, if_neg Bool.false_ne_true, List.span_eq_takeWhile_dropWhile]
      dsimp only
      cases (codes s.toList).dropWhile (fun n => !isSurrogate n) <;> simp

theorem encodeFault?_append {start : String} (unmarked : standInMark ∉ start.toList) (s : String) :
    encodeFault? (start ++ s) = none ↔ encodeFault? s = none := by
  rw [encodeFault?_eq_none_iff, encodeFault?_eq_none_iff, String.toList_append, codes_append unmarked]
  simp only [List.forall_mem_append, List.forall_mem_map, isSurrogate_toNat, implies_true, true_and]

theorem encodeFault?_line (s : String) : encodeFault? (s ++ "\n") = none ↔ encodeFault? s = none := by
  have ends (chars : List Char) :
      (∀ n ∈ codes (chars ++ ['\n']), isSurrogate n = false) ↔ ∀ n ∈ codes chars, isSurrogate n = false := by
    unfold codes
    fun_induction pieces chars with
    | case1 => simp [pieces, codeOfPiece, isSurrogate]
    | case2 c =>
        have last : isSurrogate (standsFor '\n') = false ∧ isSurrogate 10 = false := by decide
        by_cases mark : c = standInMark <;> simp [pieces, mark, codeOfPiece, isSurrogate_toNat, last]
    | case3 d rest ih => simpa [pieces_cons_mark] using fun _ => ih
    | case4 c d rest plain ih => simpa [pieces_cons plain] using fun _ => ih
  rw [encodeFault?_eq_none_iff, encodeFault?_eq_none_iff, String.toList_append]
  exact ends s.toList

theorem encodeStrict_held (t : String) : encodeStrict (held t) = .ok (bytes t) := by
  rw [encodeStrict, encodeFault?_held, encode_held]

theorem encodeStrict_ne_nil {s : String} {c : Char} (starts : s.toList.head? = some c) (plain : c ≠ standInMark)
    {data : List UInt8} (encoded : encodeStrict s = .ok data) : data ≠ [] := by
  obtain ⟨rest, starts⟩ := List.head?_eq_some_iff.mp starts
  have empty : ∀ t : String, bytes t = [] → t.toList = [] := by
    intro t encoded
    have same : bytes t = bytes "" := encoded
    rw [bytes_injective same]
    rfl
  rw [encodeStrict] at encoded
  split at encoded
  · cases encoded
  · cases encoded
    intro encoded
    rw [encode] at encoded
    split at encoded
    · have nothing := empty _ encoded
      rw [starts, codes, pieces_cons plain] at nothing
      simp [codeOfPiece, isSurrogate_toNat] at nothing
    · rw [empty _ encoded] at starts
      cases starts

theorem encodeStrict_of_unmarked {t : String} (unmarked : t.contains standInMark = false) :
    encodeStrict t = .ok (bytes t) := by
  have encoded := encodeStrict_held t
  rwa [held_of_unmarked unmarked] at encoded

theorem encodeStrict_surrogate {n : Nat} (surrogate : isSurrogate n = true) :
    encodeStrict (String.ofList (charsOfCode n)) = .error ⟨n, 0, 1⟩ := by
  have chars : charsOfCode n = [standInMark, Char.ofNat (standInShift + n)] := if_pos surrogate
  have marked : (String.ofList (charsOfCode n)).contains standInMark = true := by
    rw [String.contains_char_eq, decide_eq_true_eq, String.toList_ofList, chars]
    exact List.mem_cons_self
  have bounds : 0xd800 ≤ n ∧ n < 0xe000 := by simpa [isSurrogate] using surrogate
  have back : standsFor (Char.ofNat (standInShift + n)) = n := by
    have valid : (standInShift + n).isValidChar := by
      simp only [Nat.isValidChar, standInShift]
      omega
    have code : (Char.ofNat (standInShift + n)).toNat - standInShift = n := by
      rw [Char.ofNat, dif_pos valid]
      exact Nat.add_sub_cancel_left _ _
    rw [standsFor, code, if_pos surrogate]
  have found : codes (String.ofList (charsOfCode n)).toList = [n] := by
    rw [String.toList_ofList, chars, codes, pieces_cons_mark]
    simp [pieces, codeOfPiece, back]
  rw [encodeStrict, encodeFault?, marked, found]
  simp [List.span, List.span.loop, surrogate]

theorem decode_bytes (t : String) : decode (bytes t) = .ok (held t) := by
  have whole : (ByteArray.mk (bytes t).toArray) = t.toByteArray := by
    simp [bytes]
  have valid : t.toByteArray.IsValidUTF8 := t.isValidUTF8
  rw [decode, whole, String.fromUTF8?, dif_pos valid]
  rfl

theorem decode_ok {data : List UInt8} {text : String} (decoded : decode data = .ok text) :
    ∃ t, data = bytes t ∧ text = held t := by
  unfold decode at decoded
  split at decoded
  · rename_i t found
    rw [String.fromUTF8?] at found
    split at found
    · cases found
      cases decoded
      exact ⟨_, rfl, rfl⟩
    · cases found
  · cases decoded

theorem encodeStrict_of_decode {data : List UInt8} {text : String} (decoded : decode data = .ok text) :
    encodeStrict text = .ok data := by
  obtain ⟨t, rfl, rfl⟩ := decode_ok decoded
  exact encodeStrict_held t

end Utf8

end PluginKit
