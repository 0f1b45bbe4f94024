import Mathlib.Data.List.Sort
import Mathlib.Data.Prod.Lex
import PluginKit.Proofs.Schema.Fields
import PluginKit.Release.Client

/-!
Which tags name versions, and in which order those come. A list of version tags with distinct versions has one
decreasing arrangement, so that neither the order of the tags nor the tags between them matter to it.
-/

namespace PluginKit

namespace Version

/-! ## Names of versions -/

structure Spelled (s major minor patch : List Char) : Prop where
  spelling : ∃ mark ∈ [[], ['v']], ∃ tail ∈ [[], ['\n']],
    s = mark ++ (major ++ '.' :: (minor ++ '.' :: (patch ++ tail)))
  digits : ∀ run ∈ [major, minor, patch], run ≠ [] ∧ ∀ d ∈ run, Text.isDigit d = true

theorem readDigits?_append {digits rest : List Char} (filled : digits ≠ []) (all : ∀ d ∈ digits, Text.isDigit d = true)
    (ends : ∀ d ∈ rest.head?, Text.isDigit d = false) : readDigits? (digits ++ rest) = some (digits, rest) := by
  have taken : rest.takeWhile Text.isDigit = [] := by
    cases rest with
    | nil => rfl
    | cons d rest => simp [ends d rfl]
  have dropped : rest.dropWhile Text.isDigit = rest := by
    cases rest with
    | nil => rfl
    | cons d rest => simp [ends d rfl]
  rw [readDigits?, List.takeWhile_append_of_pos all, List.dropWhile_append_of_pos all, taken, dropped]
  simp [filled]

theorem of_readDigits? {s digits rest : List Char} (read : readDigits? s = some (digits, rest)) :
    s = digits ++ rest ∧ digits ≠ [] ∧ ∀ d ∈ digits, Text.isDigit d = true := by
  simp only [readDigits?] at read
  split at read
  · cases read
  · rename_i nonempty
    cases read
    exact ⟨List.takeWhile_append_dropWhile.symm, by simpa using nonempty,
      List.all_eq_true.mp List.all_takeWhile⟩

theorem of_readPoint? {s rest : List Char} (read : readPoint? s = some rest) : s = '.' :: rest := by
  unfold readPoint? at read
  split at read <;> cases read
  rfl

theorem withoutV_cases (s : List Char) : s = withoutV s ∨ s = 'v' :: withoutV s := by
  unfold withoutV
  split
  · exact .inr rfl
  · exact .inl rfl

theorem withoutV_of_digit {d : Char} {s : List Char} (digit : Text.isDigit d = true) : withoutV (d :: s) = d :: s := by
  have other : d ≠ 'v' := by
    rintro rfl
    exact absurd digit (by decide)
  unfold withoutV
  split
  · rename_i rest same
    exact absurd (List.cons.inj same).1 other
  · rfl

theorem withoutV_append {mark digits rest : List Char} (marked : mark ∈ [[], ['v']]) (filled : digits ≠ [])
    (all : ∀ d ∈ digits, Text.isDigit d = true) : withoutV (mark ++ (digits ++ rest)) = digits ++ rest := by
  rcases List.mem_cons.mp marked with rfl | marked
  · obtain ⟨d, digits, rfl⟩ := List.exists_cons_of_ne_nil filled
    exact withoutV_of_digit (all d List.mem_cons_self)
  · rw [List.mem_singleton.mp marked]
    rfl

theorem digits?_eq_some {s major minor patch : List Char} :
    digits? s = some (major, minor, patch) ↔ Spelled s major minor patch := by
  constructor
  · intro found
    simp only [digits?, Option.bind_eq_bind, Option.bind_eq_some_iff, Prod.exists] at found
    obtain ⟨first, afterFirst, readFirst, afterPoint, point, second, afterSecond, readSecond, afterNext, next, third,
      rest, readThird, found⟩ := found
    split at found
    · rename_i ends
      cases found
      obtain ⟨whole, one⟩ := of_readDigits? readFirst
      obtain ⟨middle, two⟩ := of_readDigits? readSecond
      obtain ⟨last, three⟩ := of_readDigits? readThird
      have shape : withoutV s = major ++ '.' :: (minor ++ '.' :: (patch ++ rest)) := by
        rw [whole, of_readPoint? point, middle, of_readPoint? next, last]
      refine ⟨?_, by simpa using ⟨one, two, three⟩⟩
      rcases withoutV_cases s with same | marked
      · exact ⟨[], by simp, rest, by simpa using ends, by rw [← shape]; exact same⟩
      · exact ⟨['v'], by simp, rest, by simpa using ends, by rw [← shape]; exact marked⟩
    · cases found
  · rintro ⟨⟨mark, marked, tail, ends, rfl⟩, digits⟩
    have one := digits major (by simp)
    have two := digits minor (by simp)
    have three := digits patch (by simp)
    have point : ∀ rest : List Char, ∀ d ∈ ('.' :: rest).head?, Text.isDigit d = false := by
      intro rest d member
      rw [← Option.mem_some_iff.mp member]
      decide
    have feed : ∀ d ∈ tail.head?, Text.isDigit d = false := by
      intro d member
      rcases List.mem_cons.mp ends with rfl | ends
      · cases member
      · rw [List.mem_singleton.mp ends] at member
        rw [← Option.mem_some_iff.mp member]
        decide
    simp only [digits?, withoutV_append marked one.1 one.2, readDigits?_append one.1 one.2 (point _),
      readDigits?_append two.1 two.2 (point _), readDigits?_append three.1 three.2 feed, readPoint?,
      Option.bind_eq_bind, Option.bind_some]
    rw [if_pos (by simpa using ends)]

theorem spelled_first {run : List Char} (filled : run ≠ []) (digits : ∀ d ∈ run, Text.isDigit d = true) :
    Spelled ('1' :: '.' :: '0' :: '.' :: run) ['1'] ['0'] run := by
  refine ⟨⟨[], by simp, [], by simp, by simp⟩, ?_⟩
  intro part member
  simp only [List.mem_cons, List.not_mem_nil, or_false] at member
  rcases member with rfl | rfl | rfl
  · exact ⟨List.cons_ne_nil _ _, List.forall_mem_singleton.mpr (by decide)⟩
  · exact ⟨List.cons_ne_nil _ _, List.forall_mem_singleton.mpr (by decide)⟩
  · exact ⟨filled, digits⟩

def ofName? (name : String) : Option Version :=
  (digits? name.toList).map fun (major, minor, patch) =>
    ⟨Text.decimalValue major, Text.decimalValue minor, Text.decimalValue patch⟩

def Names (name : String) (v : Version) : Prop :=
  ∃ major minor patch, Spelled name.toList major minor patch ∧
    v = ⟨Text.decimalValue major, Text.decimalValue minor, Text.decimalValue patch⟩

theorem ofName?_eq_some {name : String} {v : Version} : ofName? name = some v ↔ Names name v := by
  rw [ofName?, Option.map_eq_some_iff]
  constructor
  · rintro ⟨⟨major, minor, patch⟩, found, rfl⟩
    exact ⟨major, minor, patch, digits?_eq_some.mp found, rfl⟩
  · rintro ⟨major, minor, patch, spelled, rfl⟩
    exact ⟨(major, minor, patch), digits?_eq_some.mpr spelled, rfl⟩

def Readable (name : String) : Prop :=
  ∀ major minor patch, Spelled name.toList major minor patch →
    ∀ run ∈ [major, minor, patch], run.length ≤ Whole.digitLimit

theorem ofTag_of_readable {name : String} (readable : Readable name) : ofTag name = .ok (ofName? name) := by
  unfold ofTag ofName?
  cases found : digits? name.toList with
  | none => rfl
  | some runs =>
      obtain ⟨major, minor, patch⟩ := runs
      have short := readable major minor patch (digits?_eq_some.mp found)
      have within : [major, minor, patch].find? Whole.exceeds = none := by
        rw [List.find?_eq_none]
        intro run member
        simpa [Whole.exceeds] using short run member
      simp only [within, Option.map_some]

theorem readable_of_short {name : String} (short : name.toList.length ≤ Whole.digitLimit) : Readable name := by
  rintro major minor patch ⟨⟨mark, -, tail, -, shape⟩, -⟩ run member
  rw [shape] at short
  simp only [List.length_append, List.length_cons] at short
  simp only [List.mem_cons, List.not_mem_nil, or_false] at member
  rcases member with rfl | rfl | rfl <;> omega

theorem ofTag_of_long {name : String} {major minor patch : List Char} (spelled : Spelled name.toList major minor patch)
    (shorter : major.length ≤ Whole.digitLimit ∧ minor.length ≤ Whole.digitLimit)
    (long : Whole.digitLimit < patch.length) : ofTag name = .error (.tooLong patch.length) := by
  have found : [major, minor, patch].find? Whole.exceeds = some patch := by
    simp [List.find?, Whole.exceeds, Nat.not_lt.mpr shorter.1, Nat.not_lt.mpr shorter.2, long]
  rw [ofTag, digits?_eq_some.mpr spelled]
  simp only [found]

/-! ## Their order -/

def key (v : Version) : ℕ ×ₗ ℕ ×ₗ ℕ := toLex (v.major, toLex (v.minor, v.patch))

theorem key_injective : Function.Injective key := by
  intro a b same
  obtain ⟨major, rest⟩ := Prod.mk.inj (toLex.injective same)
  obtain ⟨minor, patch⟩ := Prod.mk.inj (toLex.injective rest)
  cases a
  cases b
  simp_all

theorem ble_iff {a b : Version} : a.ble b = true ↔ a.key ≤ b.key := by
  simp [ble, key, Prod.Lex.toLex_le_toLex]

def Above (name lower : String) : Prop :=
  ∃ v w, Names name v ∧ Names lower w ∧ w.key < v.key

theorem above_iff {name lower : String} :
    Above name lower ↔ ((ofName? name).any fun v => (ofName? lower).any fun w => !v.ble w) = true := by
  simp only [Above, ← ofName?_eq_some, Option.any_eq_true, Bool.not_eq_true', ← Bool.not_eq_true, ble_iff, not_le]
  constructor
  · rintro ⟨v, w, high, low, less⟩
    exact ⟨v, high, w, low, less⟩
  · rintro ⟨v, high, w, low, less⟩
    exact ⟨v, w, high, low, less⟩

instance (name lower : String) : Decidable (Above name lower) := decidable_of_iff _ above_iff.symm

theorem Above.asymm {name lower : String} (above : Above name lower) : ¬ Above lower name := by
  rintro ⟨w', v', low', high', less'⟩
  obtain ⟨v, w, high, low, less⟩ := above
  rw [← ofName?_eq_some] at high low high' low'
  obtain rfl := Option.some.inj (high.symm.trans high')
  obtain rfl := Option.some.inj (low.symm.trans low')
  exact less.asymm less'

theorem eq_of_above {names other : List String} (same : names.Perm other) (decreasing : names.Pairwise Above)
    (decreasing' : other.Pairwise Above) : names = other := by
  refine List.Perm.eq_of_pairwise ?_ decreasing decreasing' same
  intro a b _ _ before after
  exact absurd after before.asymm

end Version

namespace Fetch

open Version (ofName? Names Readable Above)

/-! ## Lists of versions -/

def versionNames (tags : List Tag) : List String := (tags.map Tag.name).filter fun name => (ofName? name).isSome

def versioned (name : String) : Option (Version × String) := (ofName? name).map (·, name)

def sorted (found : List (Version × String)) : List (Version × String) := found.mergeSort fun a b => b.1.ble a.1

theorem versioned_eq_some {name : String} {found : Version × String} :
    versioned name = some found ↔ Names found.2 found.1 ∧ found.2 = name := by
  obtain ⟨v, text⟩ := found
  rw [versioned, Option.map_eq_some_iff, ← Version.ofName?_eq_some]
  constructor
  · rintro ⟨w, named, same⟩
    cases same
    exact ⟨named, rfl⟩
  · rintro ⟨named, rfl⟩
    exact ⟨v, named, rfl⟩

theorem filterMap_versionNames {α : Type} {f : String → Option α} (tags : List Tag)
    (only : ∀ name, ofName? name = none → f name = none) :
    (versionNames tags).filterMap f = (tags.map Tag.name).filterMap f := by
  rw [versionNames, List.filterMap_filter]
  congr 1
  funext name
  cases named : ofName? name with
  | none => simp [only name named]
  | some v => simp

theorem versionTags_of_readable {tags : List Tag} (readable : ∀ tag ∈ tags, Readable tag.name) :
    versionTags tags = .ok ((sorted ((versionNames tags).filterMap versioned)).map Prod.snd) := by
  have found : tags.filterMapM (fun tag => do
      return (← Version.ofTag tag.name).map fun v => (v, tag.name)) =
      (.ok ((tags.map Tag.name).filterMap versioned) : Except Whole.Fault _) := by
    induction tags with
    | nil => rfl
    | cons tag tags ih =>
        have rest := ih fun other member => readable other (List.mem_cons_of_mem _ member)
        rw [List.filterMapM_cons, Version.ofTag_of_readable (readable tag List.mem_cons_self), rest, List.map_cons,
          List.filterMap_cons, versioned]
        cases ofName? tag.name <;> rfl
  rw [filterMap_versionNames tags fun name unread => by rw [versioned, unread]; rfl]
  rw [versionTags, found]
  rfl

theorem sorted_perm (found : List (Version × String)) : (sorted found).Perm found := List.mergeSort_perm _ _

theorem ble_trans_down (a b c : Version × String) (first : b.1.ble a.1 = true) (second : c.1.ble b.1 = true) :
    c.1.ble a.1 = true :=
  Version.ble_iff.mpr ((Version.ble_iff.mp second).trans (Version.ble_iff.mp first))

theorem ble_total_down (a b : Version × String) : (b.1.ble a.1 || a.1.ble b.1) = true := by
  simp only [Bool.or_eq_true, Version.ble_iff]
  exact le_total _ _

theorem sorted_ordered (found : List (Version × String)) :
    (sorted found).Pairwise fun a b => b.1.key ≤ a.1.key :=
  (List.pairwise_mergeSort ble_trans_down ble_total_down found).imp Version.ble_iff.mp

theorem filter_sorted (found : List (Version × String)) (v : Version) :
    (sorted found).filter (·.1 = v) = found.filter (·.1 = v) := by
  have level : (found.filter (·.1 = v)).Pairwise fun a b => b.1.ble a.1 = true := by
    refine List.pairwise_of_forall_mem_list fun a left b right => ?_
    have same : a.1 = b.1 := by
      rw [of_decide_eq_true (List.mem_filter.mp left).2, of_decide_eq_true (List.mem_filter.mp right).2]
    exact Version.ble_iff.mpr (same ▸ le_rfl)
  have kept : (found.filter (·.1 = v)).Sublist (sorted found) :=
    List.sublist_mergeSort ble_trans_down ble_total_down level List.filter_sublist
  have among := kept.filter (·.1 = v)
  rw [List.filter_filter] at among
  simp only [Bool.and_self] at among
  exact (among.eq_of_length ((sorted_perm found).symm.filter _).length_eq).symm

theorem sorted_decreasing {found : List (Version × String)} (distinct : (found.map Prod.fst).Nodup) :
    (sorted found).Pairwise fun a b => b.1.key < a.1.key := by
  have apart : (sorted found).Pairwise fun a b => a.1 ≠ b.1 :=
    List.pairwise_map.mp (((sorted_perm found).map Prod.fst).nodup_iff.mpr distinct)
  refine (sorted_ordered found).imp₂ ?_ apart
  intro a b before different
  exact lt_of_le_of_ne before fun same => different (Version.key_injective same).symm

theorem sorted_congr {found other : List (Version × String)} (same : found.Perm other)
    (distinct : (found.map Prod.fst).Nodup) : sorted found = sorted other := by
  have distinct' := (same.map Prod.fst).nodup_iff.mp distinct
  refine List.Perm.eq_of_pairwise ?_ (sorted_decreasing distinct) (sorted_decreasing distinct') ?_
  · intro a b _ _ before after
    exact absurd before after.asymm
  · exact (sorted_perm found).trans (same.trans (sorted_perm other).symm)

theorem map_fst_versioned (names : List String) :
    (names.filterMap versioned).map Prod.fst = names.filterMap ofName? := by
  rw [List.map_filterMap]
  congr 1
  funext name
  cases named : ofName? name <;> simp [versioned, named]

theorem map_snd_versioned (tags : List Tag) :
    ((versionNames tags).filterMap versioned).map Prod.snd = versionNames tags := by
  rw [List.map_filterMap, versionNames, List.filterMap_filter, ← List.filterMap_eq_filter]
  congr 1
  funext name
  cases named : ofName? name <;> simp [versioned, named, Option.guard]

theorem versionTags_decreasing {tags : List Tag} (readable : ∀ tag ∈ tags, Readable tag.name)
    (distinct : ((versionNames tags).filterMap ofName?).Nodup) :
    ∃ names, versionTags tags = .ok names ∧ names.Perm (versionNames tags) ∧ names.Pairwise Above := by
  refine ⟨_, versionTags_of_readable readable, ?_, ?_⟩
  · have same := (sorted_perm ((versionNames tags).filterMap versioned)).map Prod.snd
    rwa [map_snd_versioned] at same
  · rw [List.pairwise_map]
    refine (sorted_decreasing (by rwa [map_fst_versioned])).imp_of_mem ?_
    intro a b left right lower
    have named : ∀ found ∈ sorted ((versionNames tags).filterMap versioned), Names found.2 found.1 := by
      intro found member
      obtain ⟨name, -, versioned⟩ := List.mem_filterMap.mp ((sorted_perm _).mem_iff.mp member)
      exact (versioned_eq_some.mp versioned).1
    exact ⟨a.1, b.1, named a left, named b right, lower⟩

theorem readable_of_perm {tags other : List Tag} (same : (versionNames tags).Perm (versionNames other))
    (readable : ∀ tag ∈ tags, Readable tag.name) : ∀ tag ∈ other, Readable tag.name := by
  intro tag member major minor patch spelled
  have named : (ofName? tag.name).isSome :=
    Option.isSome_iff_exists.mpr ⟨_, Version.ofName?_eq_some.mpr ⟨major, minor, patch, spelled, rfl⟩⟩
  have listed : tag.name ∈ versionNames other := List.mem_filter.mpr ⟨List.mem_map_of_mem member, named⟩
  obtain ⟨twin, found, name⟩ := List.mem_map.mp (List.mem_filter.mp (same.mem_iff.mpr listed)).1
  exact (name ▸ readable twin found) major minor patch spelled

theorem versionTags_congr {tags other : List Tag} (same : (versionNames tags).Perm (versionNames other))
    (readable : ∀ tag ∈ tags, Readable tag.name) (distinct : ((versionNames tags).filterMap ofName?).Nodup) :
    versionTags tags = versionTags other := by
  rw [versionTags_of_readable readable, versionTags_of_readable (readable_of_perm same readable),
    sorted_congr (same.filterMap versioned) (by rwa [map_fst_versioned])]

end Fetch

end PluginKit
