import PluginKit.Json.Parser
import PluginKit.Proofs.Json.Ascii
import PluginKit.Proofs.Schema.Fields
import PluginKit.Text.Encoding

/-!
Reading JSON piece by piece. Texts without escapes, arrays of what is read item by item and objects of what is read
field by field are read as the values that they write, and a body of ASCII characters that starts with a bracket is read
as those characters.
Brackets that are nested too deeply are refused, and no object that was read has two fields of one name.
-/

namespace PluginKit

/-! ## Bodies -/

namespace Text

def IsSolid (s : List Char) : Prop := ∀ c ∈ s, c.toNat ≠ 0 ∧ c.toNat < 128

instance (s : List Char) : Decidable (IsSolid s) :=
  List.decidableBAll (fun c : Char => c.toNat ≠ 0 ∧ c.toNat < 128) s

theorem IsSolid.ascii {s : List Char} (solid : IsSolid s) : IsAscii s := fun c member => (solid c member).2

theorem IsSolid.append {s t : List Char} (left : IsSolid s) (right : IsSolid t) : IsSolid (s ++ t) := by
  intro c member
  exact (List.mem_append.mp member).elim (left c) (right c)

theorem IsSolid.cons {c : Char} {s : List Char} (first : c.toNat ≠ 0 ∧ c.toNat < 128) (others : IsSolid s) :
    IsSolid (c :: s) := by
  intro d member
  rcases List.mem_cons.mp member with rfl | member
  · exact first
  · exact others d member

theorem IsSolid.replicate {c : Char} (n : Nat) (one : c.toNat ≠ 0 ∧ c.toNat < 128) : IsSolid (List.replicate n c) := by
  intro d member
  rwa [(List.mem_replicate.mp member).2]

theorem IsSolid.intercalate {texts : List (List Char)} (each : ∀ text ∈ texts, IsSolid text) :
    IsSolid (List.intercalate [','] texts) := by
  induction texts with
  | nil =>
      intro c member
      cases member
  | cons text texts ih =>
      have first := each text List.mem_cons_self
      have others := ih fun other member => each other (List.mem_cons_of_mem text member)
      cases texts with
      | nil => rwa [List.intercalate_singleton]
      | cons next texts =>
          rw [List.intercalate_cons_cons]
          exact (first.append (by decide)).append others

def asciiByte (c : Char) : UInt8 := UInt8.ofNat c.toNat

theorem toNat_asciiByte {c : Char} (small : c.toNat < 128) : (asciiByte c).toNat = c.toNat := by
  rw [asciiByte, UInt8.toNat_ofNat', Nat.mod_eq_of_lt (by omega)]

theorem bytes_of_ascii {s : List Char} (ascii : IsAscii s) : Utf8.bytes (String.ofList s) = s.map asciiByte := by
  induction s with
  | nil => rfl
  | cons c s ih =>
      have small : c.val.toNat ≤ 127 := Nat.le_of_lt_succ (ascii c List.mem_cons_self)
      have first : Utf8.bytes (String.ofList [c]) = [asciiByte c] := by
        simp only [Utf8.bytes, String.toUTF8_eq_toByteArray, String.toByteArray_ofList, List.utf8Encode,
          List.flatMap_singleton, String.utf8EncodeChar, small, if_true, List.data_toByteArray, asciiByte, Char.toNat]
      rw [← List.singleton_append, String.ofList_append, Utf8.bytes_append, first,
        ih (ascii.of_subset (List.subset_cons_self c s)), List.map_append, List.map_singleton]

theorem withStandIns_of_ascii {bytes : List UInt8} (ascii : ∀ b ∈ bytes, b < 0x80) : withStandIns bytes = bytes := by
  induction bytes with
  | nil => rfl
  | cons b bytes ih =>
      have other : b ≠ 0xed := by
        rintro rfl
        exact absurd (ascii 0xed List.mem_cons_self) (by decide)
      rw [withStandIns.eq_2 b bytes fun _ _ _ same => absurd same other,
        ih fun d member => ascii d (List.mem_cons_of_mem b member)]

theorem detectEncoding_bracket {b : UInt8} (other : b ≠ 0) (rest : List UInt8) :
    detectEncoding (0x5b :: b :: rest) = (.utf8, 0) := by
  match rest with
  | [] =>
      change (if (0x5b : UInt8) = 0 then (Encoding.utf16 true, 0)
        else if b = 0 then (Encoding.utf16 false, 0) else (Encoding.utf8, 0)) = _
      rw [if_neg (by decide), if_neg other]
  | [c] => rfl
  | c :: d :: more =>
      change (if (0x5b : UInt8) = 0 then (if b = 0 then Encoding.utf32 true else Encoding.utf16 true, 0)
        else if b = 0 then (if c = 0 && d = 0 then Encoding.utf32 false else Encoding.utf16 false, 0)
        else (Encoding.utf8, 0)) = _
      rw [if_neg (by decide), if_neg other]

theorem decodeBody_of_solid {s : List Char} (solid : IsSolid ('[' :: s)) (filled : s ≠ []) :
    decodeBody (Utf8.bytes (String.ofList ('[' :: s))) = some (String.ofList ('[' :: s)) := by
  have bytes := bytes_of_ascii solid.ascii
  have small : ∀ b ∈ Utf8.bytes (String.ofList ('[' :: s)), b < 0x80 := by
    rw [bytes]
    intro byte member
    obtain ⟨c, found, rfl⟩ := List.mem_map.mp member
    rw [UInt8.lt_iff_toNat_lt, toNat_asciiByte (solid c found).2]
    exact (solid c found).2
  have seen : detectEncoding (Utf8.bytes (String.ofList ('[' :: s))) = (.utf8, 0) := by
    obtain ⟨c, s, rfl⟩ := List.exists_cons_of_ne_nil filled
    obtain ⟨other, small⟩ := solid c (List.mem_cons_of_mem '[' List.mem_cons_self)
    rw [bytes]
    refine detectEncoding_bracket (fun zero => other ?_) _
    rw [← toNat_asciiByte small, zero]
    rfl
  have unmarked : (String.ofList ('[' :: s)).contains standInMark = false := by
    rw [String.contains_char_eq, decide_eq_false_iff_not, String.toList_ofList]
    intro marked
    exact absurd (solid standInMark marked).2 (by decide)
  simp only [decodeBody, seen, List.drop_zero, withStandIns_of_ascii small, Utf8.decode_bytes,
    held_of_unmarked unmarked]
  rfl

end Text

/-! ## Values -/

namespace Json

variable {limits : Limits} {depth steps : Nat} {rest : List Char} {v : Value}

def isPlain (c : Char) : Bool := c != '\x22' && c != '\\' && 0x20 ≤ c.toNat && c.toNat < 0x80

theorem isPlain_iff {c : Char} :
    isPlain c = true ↔ c ≠ '\x22' ∧ c ≠ '\\' ∧ 0x20 ≤ c.toNat ∧ c.toNat < 0x80 := by
  simp [isPlain, and_assoc]

def IsPlain (s : List Char) : Prop := ∀ c ∈ s, isPlain c = true

instance (s : List Char) : Decidable (IsPlain s) := decidable_of_iff (s.all isPlain = true) List.all_eq_true

theorem solid_of_plain {s : List Char} (plain : IsPlain s) : Text.IsSolid s := by
  intro c member
  obtain ⟨-, -, visible, small⟩ := isPlain_iff.mp (plain c member)
  exact ⟨by omega, small⟩

theorem readText_plain {opening s : List Char} (plain : IsPlain s) :
    readText limits opening (s ++ '\x22' :: rest) = .ok (s, rest) := by
  induction s with
  | nil =>
      rw [List.nil_append, readText]
      rfl
  | cons c s ih =>
      obtain ⟨quote, escape, visible, -⟩ := isPlain_iff.mp (plain c List.mem_cons_self)
      rw [List.cons_append, readText, if_neg quote, if_neg escape, if_neg (Nat.not_lt.mpr visible),
        ih fun d member => plain d (List.mem_cons_of_mem c member)]

theorem skipSpace_cons {c : Char} (dense : isSpace c = false) (s : List Char) : skipSpace (c :: s) = c :: s := by
  rw [skipSpace, List.dropWhile_cons_of_neg (by simp [dense])]

theorem intercalate_cons (c : Char) (s : List Char) (others : List (List Char)) :
    ∃ t, List.intercalate [','] ((c :: s) :: others) = c :: t := by
  cases others with
  | nil => exact ⟨s, List.intercalate_singleton⟩
  | cons next others => exact ⟨_, List.intercalate_cons_cons⟩

theorem refuses_eq_false (shallow : depth < limits.depth) (empty : Bool) : limits.refuses depth empty = false := by
  simp [Limits.refuses, Nat.not_le.mpr shallow]

structure Writes (limits : Limits) (depth : Nat) (text : List Char) (v : Value) : Prop where
  solid : Text.IsSolid text
  starts : ∃ c s, text = c :: s ∧ isSpace c = false ∧ c ≠ ']'
  reads : ∀ steps rest, 2 * text.length ≤ steps → readValueWithin limits depth steps (text ++ rest) = .ok (v, rest)

def writeText (s : String) : List Char := '\x22' :: (s.toList ++ ['\x22'])

def writeField (field : String × List Char) : List Char := writeText field.1 ++ ':' :: field.2

def writeList (items : List (List Char)) : List Char := '[' :: (List.intercalate [','] items ++ [']'])

def writeObject (fields : List (String × List Char)) : List Char :=
  '\x7b' :: (List.intercalate [','] (fields.map writeField) ++ ['\x7d'])

theorem solid_writeText {s : String} (plain : IsPlain s.toList) : Text.IsSolid (writeText s) :=
  .cons (by decide) ((solid_of_plain plain).append (by decide))

theorem writes_text {s : String} (plain : IsPlain s.toList) :
    Writes limits depth (writeText s) (.text s) where
  solid := solid_writeText plain
  starts := ⟨_, _, rfl, rfl, by decide⟩
  reads := by
    intro steps rest enough
    obtain ⟨steps, rfl⟩ : ∃ fewer, steps = fewer + 1 := ⟨steps - 1, by simp [writeText] at enough; omega⟩
    rw [writeText, List.cons_append, List.append_assoc, List.singleton_append, readValueWithin, readText_plain plain]
    simp only [String.ofList_toList]

theorem readItems_written (rest : List Char) {items : List (List Char × Value)}
    (each : ∀ item ∈ items, Writes limits depth item.1 item.2) (filled : items ≠ [])
    (enough : 2 * (List.intercalate [','] (items.map Prod.fst)).length < steps) :
    readItemsWithin limits depth steps (List.intercalate [','] (items.map Prod.fst) ++ ']' :: rest) =
      .ok (items.map Prod.snd, rest) := by
  induction items generalizing steps with
  | nil => exact absurd rfl filled
  | cons item items ih =>
      obtain ⟨steps, rfl⟩ : ∃ fewer, steps = fewer + 1 := ⟨steps - 1, by omega⟩
      have read := (each item List.mem_cons_self).reads
      have others := fun other member => each other (List.mem_cons_of_mem item member)
      cases items with
      | nil =>
          rw [List.map_singleton, List.intercalate_singleton] at enough
          rw [readItemsWithin, List.map_singleton, List.intercalate_singleton, read steps _ (by omega)]
          simp only [skipSpace_cons (c := ']') rfl, List.map_singleton]
      | cons next items =>
          obtain ⟨c, s, shape, dense, -⟩ := (others next List.mem_cons_self).starts
          rw [List.map_cons, List.map_cons, List.intercalate_cons_cons, List.length_append, List.length_append,
            List.length_singleton, ← List.map_cons] at enough
          have onward := ih others (by simp) (show _ < steps by omega)
          rw [readItemsWithin, List.map_cons, List.map_cons, List.intercalate_cons_cons, List.append_assoc,
            List.append_assoc, read steps _ (by omega), ← List.map_cons]
          obtain ⟨t, first⟩ := intercalate_cons c s (items.map Prod.fst)
          rw [List.map_cons, shape, first, List.cons_append] at onward
          simp only [List.map_cons, shape, first, List.cons_append, List.nil_append, skipSpace_cons (c := ',') rfl,
            skipSpace_cons dense, onward]

theorem writes_list {items : List (List Char × Value)} (shallow : depth < limits.depth)
    (each : ∀ item ∈ items, Writes limits (depth + 1) item.1 item.2) :
    Writes limits depth (writeList (items.map Prod.fst)) (.list (items.map Prod.snd)) where
  solid := by
    refine .cons (by decide) (.append (.intercalate ?_) (by decide))
    intro text member
    obtain ⟨item, found, rfl⟩ := List.mem_map.mp member
    exact (each item found).solid
  starts := ⟨_, _, rfl, rfl, by decide⟩
  reads := by
    intro steps rest enough
    rw [writeList, List.length_cons, List.length_append, List.length_singleton] at enough
    obtain ⟨steps, rfl⟩ : ∃ fewer, steps = fewer + 1 := ⟨steps - 1, by omega⟩
    rw [writeList, List.cons_append, List.append_assoc, List.singleton_append, readValueWithin]
    cases items with
    | nil =>
        simp only [List.map_nil, List.intercalate_nil, List.nil_append, skipSpace_cons (c := ']') rfl,
          refuses_eq_false shallow, Bool.false_eq_true, if_false]
    | cons item items =>
        have read := readItems_written rest each (by simp) (show _ < steps by omega)
        obtain ⟨c, s, shape, dense, other⟩ := (each item List.mem_cons_self).starts
        obtain ⟨t, first⟩ := intercalate_cons c s (items.map Prod.fst)
        rw [List.map_cons, shape, first, List.cons_append] at read ⊢
        simp only [skipSpace_cons dense, refuses_eq_false shallow, Bool.false_eq_true, if_false]
        split
        · rename_i after same
          exact absurd (List.cons.inj same).1 other
        · rw [read]

def gather (before : Fields) (fields : List (String × List Char × Value)) : Fields :=
  fields.foldl (fun before field => before.put (.text field.1) field.2.2) before

def written (fields : List (String × List Char × Value)) : List (String × List Char) :=
  fields.map fun field => (field.1, field.2.1)

theorem written_starts (field : String × List Char × Value) (fields : List (String × List Char × Value)) :
    ∃ t, List.intercalate [','] ((written (field :: fields)).map writeField) = '\x22' :: t :=
  intercalate_cons '\x22' (field.1.toList ++ ['\x22'] ++ ':' :: field.2.1) ((written fields).map writeField)

theorem readFields_written (before : Fields) (rest : List Char) {fields : List (String × List Char × Value)}
    (each : ∀ field ∈ fields, IsPlain field.1.toList ∧ Writes limits depth field.2.1 field.2.2)
    (filled : fields ≠ [])
    (enough : 2 * (List.intercalate [','] ((written fields).map writeField)).length < steps) :
    readFieldsWithin limits depth steps before
        (List.intercalate [','] ((written fields).map writeField) ++ '\x7d' :: rest) =
      .ok (gather before fields, rest) := by
  induction fields generalizing steps before with
  | nil => exact absurd rfl filled
  | cons field fields ih =>
      obtain ⟨steps, rfl⟩ : ∃ fewer, steps = fewer + 1 := ⟨steps - 1, by omega⟩
      obtain ⟨plain, writes⟩ := each field List.mem_cons_self
      have others := fun other member => each other (List.mem_cons_of_mem field member)
      obtain ⟨c, s, shape, dense, -⟩ := writes.starts
      have value : ∀ more, 2 * field.2.1.length ≤ steps →
          readValueWithin limits depth steps (skipSpace (field.2.1 ++ more)) = .ok (field.2.2, more) := by
        intro more bound
        rw [shape, List.cons_append, skipSpace_cons dense, ← List.cons_append, ← shape, writes.reads steps more bound]
      cases fields with
      | nil =>
          simp only [written, List.map_cons, List.map_nil, List.intercalate_singleton, writeField, writeText,
            List.length_append, List.length_cons, List.length_nil] at enough
          simp only [written, List.map_cons, List.map_nil, List.intercalate_singleton, writeField, writeText,
            List.cons_append, List.append_assoc, List.nil_append, readFieldsWithin, readText_plain plain,
            skipSpace_cons (c := ':') rfl, value _ (by omega), skipSpace_cons (c := '\x7d') rfl, String.ofList_toList]
          rfl
      | cons next fields =>
          have length : (List.intercalate [','] ((written (field :: next :: fields)).map writeField)).length =
              (writeField (field.1, field.2.1)).length + 1 +
                (List.intercalate [','] ((written (next :: fields)).map writeField)).length := by
            simp only [written, List.map_cons, List.intercalate_cons_cons, List.length_append, List.length_singleton]
          have size : (writeField (field.1, field.2.1)).length = field.1.toList.length + field.2.1.length + 3 := by
            simp only [writeField, writeText, List.length_append, List.length_cons, List.length_nil]
            omega
          have onward := ih (before.put (.text field.1) field.2.2) others (by simp)
            (show _ < steps by omega)
          obtain ⟨t, first⟩ := written_starts next fields
          have cut : List.intercalate [','] ((written (field :: next :: fields)).map writeField) =
              writeField (field.1, field.2.1) ++ ',' :: '\x22' :: t := by
            rw [← first]
            simp only [written, List.map_cons, List.intercalate_cons_cons, List.append_assoc, List.singleton_append]
          rw [first] at onward
          rw [cut]
          simp only [writeField, writeText, List.cons_append, List.append_assoc, List.nil_append, readFieldsWithin,
            readText_plain plain, skipSpace_cons (c := ':') rfl, value _ (by omega), skipSpace_cons (c := ',') rfl,
            skipSpace_cons (c := '\x22') rfl, String.ofList_toList]
          exact onward

theorem writes_object (fields : List (String × List Char × Value)) (shallow : depth < limits.depth)
    (each : ∀ field ∈ fields, IsPlain field.1.toList ∧ Writes limits (depth + 1) field.2.1 field.2.2)
    (filled : fields ≠ []) :
    Writes limits depth (writeObject (written fields)) (.object (gather [] fields)) where
  solid := by
    refine .cons (by decide) (.append (.intercalate ?_) (by decide))
    intro text member
    obtain ⟨pair, listed, rfl⟩ := List.mem_map.mp member
    obtain ⟨field, found, rfl⟩ := List.mem_map.mp listed
    obtain ⟨plain, writes⟩ := each field found
    exact (solid_writeText plain).append (.cons (by decide) writes.solid)
  starts := ⟨_, _, rfl, rfl, by decide⟩
  reads := by
    intro steps rest enough
    rw [writeObject, List.length_cons, List.length_append, List.length_singleton] at enough
    obtain ⟨steps, rfl⟩ : ∃ fewer, steps = fewer + 1 := ⟨steps - 1, by omega⟩
    have read := readFields_written [] rest each filled (show _ < steps by omega)
    obtain ⟨field, fields, rfl⟩ := List.exists_cons_of_ne_nil filled
    obtain ⟨t, first⟩ := written_starts field fields
    rw [first, List.cons_append] at read
    rw [writeObject, first, List.cons_append, List.append_assoc, List.cons_append, List.singleton_append,
      readValueWithin]
    simp only [skipSpace_cons (c := '\x22') rfl, refuses_eq_false shallow, Bool.false_eq_true, if_false, read]
    rfl

theorem parse_of_writes {text : List Char} (writes : Writes .loose 0 text v) :
    parse (String.ofList text) = .ok v := by
  obtain ⟨c, s, shape, dense, -⟩ := writes.starts
  have read := writes.reads (2 * text.length + 2) [] (by omega)
  have small := (writes.solid c (by rw [shape]; exact List.mem_cons_self)).2
  have whole : Json.read .loose text = .ok v := by
    unfold Json.read
    split
    · rename_i rest _
      rw [(List.cons.inj shape).1.symm] at small
      exact absurd small (by decide)
    · rw [List.append_nil] at read
      rw [shape, skipSpace_cons dense, ← shape, read]
      rfl
  rw [parse, String.toList_ofList, whole]
  rfl

theorem readValue_nested {more : Nat} (deep : depth + more = limits.depth) (counts : limits.countsEmpty = true)
    (enough : 2 * more < steps) :
    readValueWithin limits depth steps (List.replicate (more + 1) '[' ++ rest) =
      .error ⟨.tooDeep false, '[' :: rest⟩ := by
  induction more generalizing depth steps with
  | zero =>
      obtain ⟨steps, rfl⟩ : ∃ fewer, steps = fewer + 1 := ⟨steps - 1, by omega⟩
      have refused (empty : Bool) : limits.refuses depth empty = true := by
        simp [Limits.refuses, counts]
        omega
      rw [List.replicate_one, List.singleton_append, readValueWithin]
      simp only [refused, if_true]
  | succ more ih =>
      obtain ⟨steps, rfl⟩ : ∃ fewer, steps = fewer + 2 := ⟨steps - 2, by omega⟩
      have inner := ih (show depth + 1 + more = limits.depth by omega) (show 2 * more < steps by omega)
      rw [List.replicate_succ, List.cons_append, readValueWithin]
      rw [List.replicate_succ, List.cons_append] at inner ⊢
      simp only [skipSpace_cons (c := '[') rfl, refuses_eq_false (show depth < limits.depth by omega),
        Bool.false_eq_true, if_false, readItemsWithin, inner]
      rfl

theorem parse_nested (rest : List Char) :
    ∃ e, parse (String.ofList (List.replicate (Limits.loose.depth + 1) '[' ++ rest)) = .error e ∧
      e.problem = .tooDeep false := by
  have read : readValueWithin .loose 0 (2 * (List.replicate (Limits.loose.depth + 1) '[' ++ rest).length + 2)
      (List.replicate (Limits.loose.depth + 1) '[' ++ rest) = .error ⟨.tooDeep false, '[' :: rest⟩ := by
    apply readValue_nested (Nat.zero_add _) rfl
    rw [List.length_append, List.length_replicate]
    omega
  have whole : Json.read .loose (List.replicate (Limits.loose.depth + 1) '[' ++ rest) =
      .error ⟨.tooDeep false, '[' :: rest⟩ := by
    rw [List.replicate_succ, List.cons_append] at read ⊢
    unfold Json.read
    split
    · rename_i other same
      exact absurd (List.cons.inj same).1 (by decide)
    · rw [skipSpace_cons rfl, read]
  refine ⟨Fault.locate ⟨.tooDeep false, '[' :: rest⟩ (List.replicate (Limits.loose.depth + 1) '[' ++ rest), ?_, rfl⟩
  rw [parse, String.toList_ofList, whole]
  rfl

/-! ## Names of fields -/

section

variable {limits : Limits} {depth steps : Nat} {s rest : List Char} {before fields : Fields}

theorem readFields_distinct (distinct : before.Distinct)
    (read : readFieldsWithin limits depth steps before s = .ok (fields, rest)) : fields.Distinct := by
  induction steps generalizing before s with
  | zero => cases read
  | succ steps ih =>
      unfold readFieldsWithin at read
      repeat' split at read
      all_goals first | cases read; exact distinct.put _ _ | exact ih (distinct.put _ _) read | cases read

theorem readScalar_ne_object : readScalar s ≠ .ok (.object fields, rest) := by
  have constant : readConstant s ≠ some (.object fields, rest) := by
    intro found
    obtain ⟨⟨word, value⟩, member, found⟩ := List.exists_of_findSome?_eq_some found
    simp only [Option.ite_none_right_eq_some, Option.some.injEq, Prod.mk.injEq] at found
    obtain ⟨-, rfl, -⟩ := found
    simp [constants] at member
  have number : ∀ negative s, readUnsigned negative s ≠ some (.ok (.object fields), rest) := by
    intro negative s found
    simp only [readUnsigned, Option.bind_eq_bind, Option.bind_eq_some_iff, Option.pure_def] at found
    obtain ⟨whole, -, found⟩ := found
    repeat' split at found
    all_goals cases found
  intro read
  unfold readScalar at read
  split at read
  · rename_i found eq
    exact constant (eq.trans (congrArg some (Except.ok.inj read)))
  · split at read
    · rename_i value after eq
      cases read
      unfold readNumber at eq
      split at eq <;> exact number _ _ eq
    · cases read
    · cases read

theorem readValue_distinct (read : readValueWithin limits depth steps s = .ok (.object fields, rest)) :
    fields.Distinct := by
  cases steps with
  | zero => cases read
  | succ steps =>
      unfold readValueWithin at read
      split at read
      · split at read <;> cases read
      · dsimp only at read
        split at read
        · cases read
        · split at read
          · cases read
          · split at read <;> cases read
      · dsimp only at read
        split at read
        · cases read
        · split at read
          · cases read
            exact Fields.distinct_nil
          · split at read
            · cases read
            · rename_i found
              cases read
              exact readFields_distinct Fields.distinct_nil found
      · exact absurd read readScalar_ne_object

theorem parse_distinct {text : String} (read : parse text = .ok (.object fields)) : fields.Distinct := by
  have found := mapError_eq_ok.mp read
  unfold Json.read at found
  split at found
  · cases found
  · split at found
    · cases found
    · rename_i value
      split at found
      · cases found
        exact readValue_distinct value
      · cases found

end

end Json

end PluginKit
