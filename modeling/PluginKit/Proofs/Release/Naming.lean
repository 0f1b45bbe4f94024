import Mathlib.Data.Nat.Digits.Defs
import PluginKit.Proofs.Json.RoundTrip
import PluginKit.Proofs.Release.Versions

/-!
Reading versions from tags. A tag is read as a version if and only if it is spelled as one and none of its numbers is
too long. Every version within that limit is read from its own printed name, with a `v` or without, so versions are
told apart by their names.
-/

namespace PluginKit.Version

variable {name : String} {major minor patch : List Char} {v : Version}

/-! ## Numbers -/

def numeral (run : List Char) : Nat := Nat.ofDigits 10 (run.reverse.filterMap Text.digitValue?)

theorem decimalValue_append (run : List Char) (d : Char) :
    Text.decimalValue (run ++ [d]) = 10 * Text.decimalValue run + (Text.digitValue? d).getD 0 := by
  simp [Text.decimalValue]

theorem decimalValue_eq_numeral {run : List Char} (digits : ∀ d ∈ run, Text.isDigit d = true) :
    Text.decimalValue run = numeral run := by
  induction run using List.reverseRecOn with
  | nil => rfl
  | append_singleton run d ih =>
      obtain ⟨n, value⟩ := Option.isSome_iff_exists.mp (digits d (by simp))
      have front := ih fun e member => digits e (by simp [member])
      rw [decimalValue_append, front, numeral, numeral, List.reverse_append, List.reverse_singleton,
        List.singleton_append, List.filterMap_cons_some value, Nat.ofDigits_cons, value]
      simp [Nat.add_comm]

theorem isDigit_of_mem_toDigits {n : Nat} {d : Char} (member : d ∈ Nat.toDigits 10 n) : Text.isDigit d = true := by
  rw [Text.isDigit, Json.digitValue?_ascii (Json.isAsciiDigit_of_mem member)]
  rfl

theorem numeral_toDigits (n : Nat) : numeral (Nat.toDigits 10 n) = n := by
  rw [← decimalValue_eq_numeral fun d => isDigit_of_mem_toDigits, Json.decimalValue_toDigits]

/-! ## Outcomes of reading -/

def ofRuns (major minor patch : List Char) : Version := ⟨numeral major, numeral minor, numeral patch⟩

theorem ofTag_spelled (spelled : Spelled name.toList major minor patch) :
    ofTag name = ([major, minor, patch].find? Whole.exceeds).elim (.ok (some (ofRuns major minor patch)))
      fun long => .error (.tooLong long.length) := by
  have value : ∀ run ∈ [major, minor, patch], Text.decimalValue run = numeral run := fun run member =>
    decimalValue_eq_numeral (spelled.digits run member).2
  rw [ofTag, digits?_eq_some.mpr spelled, ofRuns, ← value major (by simp), ← value minor (by simp),
    ← value patch (by simp)]
  cases found : [major, minor, patch].find? Whole.exceeds <;> simp only [found, Option.elim]

theorem ofTag_unspelled (unspelled : ∀ major minor patch, ¬ Spelled name.toList major minor patch) :
    ofTag name = .ok none := by
  have unread : digits? name.toList = none := by
    rw [Option.eq_none_iff_forall_ne_some]
    rintro ⟨major, minor, patch⟩ found
    exact unspelled major minor patch (digits?_eq_some.mp found)
  rw [ofTag, unread]

theorem ofTag_eq_iff {outcome : Except Whole.Fault (Option Version)} (known : outcome ≠ .ok none) :
    ofTag name = outcome ↔ ∃ major minor patch, Spelled name.toList major minor patch ∧
      ([major, minor, patch].find? Whole.exceeds).elim (.ok (some (ofRuns major minor patch)))
        (fun long => .error (.tooLong long.length)) = outcome := by
  constructor
  · intro read
    by_cases spelling : ∃ major minor patch, Spelled name.toList major minor patch
    · obtain ⟨major, minor, patch, spelled⟩ := spelling
      exact ⟨major, minor, patch, spelled, (ofTag_spelled spelled).symm.trans read⟩
    · have unread := ofTag_unspelled fun major minor patch spelled => spelling ⟨major, minor, patch, spelled⟩
      exact absurd (read.symm.trans unread) known
  · rintro ⟨major, minor, patch, spelled, same⟩
    exact (ofTag_spelled spelled).trans same

def WithinLimit (runs : List (List Char)) : Prop := ∀ run ∈ runs, run.length ≤ Whole.digitLimit

theorem find?_exceeds_eq_none_iff {runs : List (List Char)} :
    runs.find? Whole.exceeds = none ↔ WithinLimit runs := by
  simp [WithinLimit, Whole.exceeds]

theorem ofTag_eq_some_iff : ofTag name = .ok (some v) ↔
    ∃ major minor patch, Spelled name.toList major minor patch ∧ WithinLimit [major, minor, patch] ∧
      v = ofRuns major minor patch := by
  rw [ofTag_eq_iff (by simp)]
  refine exists_congr fun major => exists_congr fun minor => exists_congr fun patch => and_congr_right fun _ => ?_
  rw [← find?_exceeds_eq_none_iff]
  cases [major, minor, patch].find? Whole.exceeds <;> simp [eq_comm]

theorem ofTag_eq_error_iff {fault : Whole.Fault} : ofTag name = .error fault ↔
    ∃ major minor patch, Spelled name.toList major minor patch ∧
      ∃ long, [major, minor, patch].find? Whole.exceeds = some long ∧ fault = .tooLong long.length := by
  rw [ofTag_eq_iff (by simp)]
  refine exists_congr fun major => exists_congr fun minor => exists_congr fun patch => and_congr_right fun _ => ?_
  cases [major, minor, patch].find? Whole.exceeds <;> simp [eq_comm]

theorem ofTag_eq_none_iff :
    ofTag name = .ok none ↔ ∀ major minor patch, ¬ Spelled name.toList major minor patch := by
  refine ⟨fun read major minor patch spelled => ?_, ofTag_unspelled⟩
  rw [ofTag_spelled spelled] at read
  cases found : [major, minor, patch].find? Whole.exceeds <;> rw [found] at read <;> cases read

/-! ## Printed names -/

def printed (v : Version) : String := toString v.major ++ "." ++ toString v.minor ++ "." ++ toString v.patch

def Fits (v : Version) : Prop := ∀ n ∈ [v.major, v.minor, v.patch], n < 10 ^ Whole.digitLimit

theorem spelled_printed (v : Version) {mark : String} (marked : mark ∈ ["", "v"]) :
    Spelled (mark ++ v.printed).toList (Nat.toDigits 10 v.major) (Nat.toDigits 10 v.minor)
      (Nat.toDigits 10 v.patch) := by
  refine ⟨⟨mark.toList, List.mem_map_of_mem marked, [], by simp, ?_⟩, ?_⟩
  · simp [printed, Nat.toString_eq_repr]
  · intro run member
    obtain ⟨n, rfl⟩ : ∃ n, run = Nat.toDigits 10 n := by
      simp only [List.mem_cons, List.not_mem_nil, or_false] at member
      rcases member with rfl | rfl | rfl <;> exact ⟨_, rfl⟩
    exact ⟨Nat.toDigits_ne_nil, fun d => isDigit_of_mem_toDigits⟩

theorem Fits.withinLimit (fits : v.Fits) :
    WithinLimit ([v.major, v.minor, v.patch].map (Nat.toDigits 10)) := by
  intro run member
  obtain ⟨n, listed, rfl⟩ := List.mem_map.mp member
  exact (Nat.length_toDigits_le_iff (by decide) (by decide)).mpr (fits n listed)

theorem ofTag_printed (fits : v.Fits) {mark : String} (marked : mark ∈ ["", "v"]) :
    ofTag (mark ++ v.printed) = .ok (some v) := by
  refine ofTag_eq_some_iff.mpr ⟨_, _, _, spelled_printed v marked, fits.withinLimit, ?_⟩
  simp only [ofRuns, numeral_toDigits]

/-- What becomes of a tag follows from its spelling and the lengths of its numbers; the printed names of versions are
read as these versions, and two of them are read alike only if they are the same name. -/
theorem tags_read_exactly (name : String) (v w : Version) :
    (ofTag name = .ok (some v) ↔ ∃ major minor patch, Spelled name.toList major minor patch ∧
      WithinLimit [major, minor, patch] ∧ v = ⟨numeral major, numeral minor, numeral patch⟩) ∧
    (ofTag name = .ok none ↔ ∀ major minor patch, ¬ Spelled name.toList major minor patch) ∧
    (∀ fault, ofTag name = .error fault ↔ ∃ major minor patch, Spelled name.toList major minor patch ∧
      ∃ long, [major, minor, patch].find? Whole.exceeds = some long ∧ fault = .tooLong long.length) ∧
    (v.Fits → ofTag v.printed = .ok (some v) ∧ ofTag ("v" ++ v.printed) = .ok (some v)) ∧
    (v.Fits → w.Fits → (ofTag v.printed = ofTag w.printed ↔ v.printed = w.printed)) := by
  have read : ∀ {v : Version}, v.Fits → ofTag v.printed = .ok (some v) := by
    intro v fits
    have bare : ofTag ("" ++ v.printed) = .ok (some v) := ofTag_printed fits (by simp)
    rwa [String.empty_append] at bare
  refine ⟨ofTag_eq_some_iff, ofTag_eq_none_iff, fun fault => ofTag_eq_error_iff,
    fun fits => ⟨read fits, ofTag_printed fits (by simp)⟩, fun fits fits' => ⟨fun same => ?_, congrArg ofTag⟩⟩
  rw [read fits, read fits'] at same
  cases same
  rfl

theorem fits_of_small (small : ∀ n ∈ [v.major, v.minor, v.patch], n < 10) : v.Fits := fun n listed =>
  (small n listed).trans_le (Nat.le_pow (by decide))

theorem release_names_read :
    ofTag "v1.٠.02\n" = .ok (some ⟨1, 0, 2⟩) ∧ ofTag "1.0" = .ok none ∧ ofTag "0.9.0" = .ok (some ⟨0, 9, 0⟩) ∧
      ofTag "v0.9.0" = .ok (some ⟨0, 9, 0⟩) ∧ ofTag "0.9.0" ≠ ofTag "0.8.0" := by
  have nine : Fits ⟨0, 9, 0⟩ := fits_of_small (by decide)
  have eight : Fits ⟨0, 8, 0⟩ := fits_of_small (by decide)
  have spelled : Spelled "v1.٠.02\n".toList ['1'] ['٠'] ['0', '2'] := digits?_eq_some.mp (by decide)
  have short : WithinLimit [['1'], ['٠'], ['0', '2']] := find?_exceeds_eq_none_iff.mp (by decide)
  have two : digits? "1.0".toList = none := by decide
  obtain ⟨spells, -⟩ := tags_read_exactly "v1.٠.02\n" ⟨1, 0, 2⟩ ⟨1, 0, 2⟩
  obtain ⟨-, lacks, -, read, apart⟩ := tags_read_exactly "1.0" ⟨0, 9, 0⟩ ⟨0, 8, 0⟩
  refine ⟨spells.mpr ⟨_, _, _, spelled, short, by decide⟩, lacks.mpr ?_, (read nine).1, (read nine).2,
    fun same => absurd ((apart nine eight).mp same) (by decide)⟩
  intro major minor patch spelled
  rw [digits?_eq_some.mpr spelled] at two
  cases two

def padded (zeros : Nat) : List Char := List.replicate zeros '0' ++ ['1']

def paddedName (zeros : Nat) : String := "1.0." ++ String.ofList (padded zeros)

theorem paddedName_spelled (zeros : Nat) : Spelled (paddedName zeros).toList ['1'] ['0'] (padded zeros) := by
  have digits : ∀ d ∈ padded zeros, Text.isDigit d = true := by
    intro d member
    rcases List.mem_append.mp member with zero | one
    · rw [(List.mem_replicate.mp zero).2]
      decide
    · rw [List.mem_singleton.mp one]
      decide
  have chars : (paddedName zeros).toList = '1' :: '.' :: '0' :: '.' :: padded zeros := by simp [paddedName]
  rw [chars]
  exact spelled_first (by simp [padded]) digits

theorem numeral_padded (zeros : Nat) : numeral (padded zeros) = 1 := by
  have zero : Text.digitValue? '0' = some 0 := by decide
  have one : Text.digitValue? '1' = some 1 := by decide
  simp [numeral, padded, zero, one, Nat.ofDigits_cons, Nat.ofDigits_replicate_zero]

theorem ofTag_paddedName {zeros : Nat} (long : Whole.digitLimit ≤ zeros) :
    ofTag (paddedName zeros) = .error (.tooLong (zeros + 1)) := by
  have length : (padded zeros).length = zeros + 1 := by simp [padded]
  have refused := ofTag_of_long (paddedName_spelled zeros) ⟨by decide, by decide⟩ (by omega)
  rwa [length] at refused

/-- A tag may spell a version and still have too many digits to be read, however small its numbers are. -/
theorem padded_number_unread :
    Spelled (paddedName 4300).toList ['1'] ['0'] (padded 4300) ∧ numeral (padded 4300) = 1 ∧
      ofTag (paddedName 4300) = .error (.tooLong 4301) :=
  ⟨paddedName_spelled 4300, numeral_padded 4300, ofTag_paddedName (by decide)⟩

end PluginKit.Version
