import Mathlib.Tactic.Lift
import PluginKit.Plugin.Guest

/-!
Memory as a list of bytes: what a slice reads and how much, what a write leaves alone, and that a write
inside the memory is read back.
-/

namespace PluginKit.Memory

theorem length_toList (m : Memory) : m.toList.length = m.size := rfl

theorem slice_eq (m : Memory) (address count : Nat) (inside : address + count ≤ m.size) :
    m.slice address (address + count) = (m.toList.drop address).take count := by
  have start : m.clamp (address : Int) = address := by
    simp only [clamp, if_neg (show ¬(address : Int) < 0 by omega)]
    omega
  have stop : m.clamp ((address : Int) + count) = address + count := by
    simp only [clamp, if_neg (show ¬(address : Int) + count < 0 by omega)]
    omega
  rw [slice, start, stop, ByteArray.data_extract, Array.toList_extract, List.extract_eq_take_drop]
  simp [toList]

theorem take_slice {m : Memory} {address : Int} {count size : Nat}
    (inside : 0 ≤ address ∧ address + size ≤ m.size) (fits : count ≤ size) :
    (m.slice address (address + size)).take count = m.slice address (address + count) := by
  lift address to Nat using inside.1
  rw [slice_eq _ _ _ (by omega), slice_eq _ _ _ (by omega), List.take_take, Nat.min_eq_left fits]

theorem toList_overwrite (m : Memory) (address : Nat) (data : List UInt8) :
    (m.overwrite address data).toList =
      m.toList.take address ++ data ++ m.toList.drop (address + data.length) := by
  have whole : data.length - 0 = data.length := Nat.sub_zero _
  simp only [toList, overwrite, ByteArray.copySlice, Array.toList_append, Array.toList_extract,
    List.extract_eq_take_drop, List.drop_zero, Nat.zero_add]
  have used : min data.length ((ByteArray.mk data.toArray).data.size - 0) = data.length := by simp
  rw [used]
  simp only [whole, Nat.sub_zero, List.take_length]
  congr 1
  rw [List.take_of_length_le]
  simp only [List.length_drop, Array.length_toList]
  omega

theorem size_overwrite (m : Memory) (address : Nat) (data : List UInt8)
    (inside : address + data.length ≤ m.size) : (m.overwrite address data).size = m.size := by
  rw [← length_toList, ← length_toList, toList_overwrite]
  rw [← length_toList] at inside
  simp only [List.length_append, List.length_take, List.length_drop]
  omega

theorem slice_overwrite (m : Memory) (address : Nat) (data : List UInt8)
    (inside : address + data.length ≤ m.size) :
    (m.overwrite address data).slice address (address + data.length) = data := by
  rw [slice_eq _ _ _ (by rwa [size_overwrite m address data inside]),
    toList_overwrite, List.append_assoc]
  have front : (m.toList.take address).length = address := by
    rw [List.length_take, length_toList]
    omega
  rw [List.drop_left' front, List.take_left' rfl]

def SameOutside (address : Int) (count : Nat) (m m' : Memory) : Prop :=
  m'.size = m.size ∧ ∀ i : Nat, (i : Int) < address ∨ address + count ≤ i →
    m'.toList[i]? = m.toList[i]?

theorem sameOutside_overwrite (m : Memory) (address count : Nat) (data : List UInt8)
    (inside : address + data.length ≤ m.size) (fits : data.length ≤ count) :
    SameOutside address count m (m.overwrite address data) := by
  refine ⟨size_overwrite m address data inside, ?_⟩
  intro i outside
  rw [toList_overwrite]
  have front : (m.toList.take address).length = address := by
    rw [List.length_take, length_toList]
    omega
  rcases outside with below | above
  · rw [List.append_assoc, List.getElem?_append_left (by omega), List.getElem?_take_of_lt (by omega)]
  · have behind : (m.toList.take address ++ data).length ≤ i := by
      rw [List.length_append, front]
      omega
    rw [List.getElem?_append_right behind, List.getElem?_drop, List.length_append, front]
    congr 1
    omega

/-! ## Writes -/

theorem write?_eq (m : Memory) (address : Nat) (data : List UInt8) (filled : data ≠ [])
    (inside : address + data.length ≤ m.size) :
    m.write? address data = some (m.overwrite address data) := by
  have positive := List.length_pos_iff.mpr filled
  simp only [write?, if_neg (show ¬(address : Int) < 0 by omega), Int.toNat_natCast]
  rw [if_neg]
  simp only [Bool.or_eq_true, decide_eq_true_eq]
  omega

theorem write?_some {m m' : Memory} (address : Nat) {data : List UInt8}
    (written : m.write? address data = some m') :
    address + data.length ≤ m.size ∧ m' = m.overwrite address data := by
  simp only [write?, if_neg (show ¬(address : Int) < 0 by omega), Int.toNat_natCast] at written
  split at written
  · cases written
  · rename_i room
    simp only [Bool.or_eq_true, decide_eq_true_eq] at room
    exact ⟨by omega, (Option.some.inj written).symm⟩

theorem slice_write? {m m' : Memory} {address : Int} {data : List UInt8} (nonnegative : 0 ≤ address)
    (written : m.write? address data = some m') : m'.slice address (address + data.length) = data := by
  lift address to Nat using nonnegative
  obtain ⟨inside, rfl⟩ := write?_some _ written
  exact slice_overwrite m address data inside

theorem write?_isSome {m : Memory} {address : Int} {data : List UInt8} (filled : data ≠ [])
    (nonnegative : 0 ≤ address) (inside : address + data.length ≤ m.size) :
    ∃ m', m.write? address data = some m' := by
  lift address to Nat using nonnegative
  exact ⟨_, write?_eq m address data filled (by omega)⟩

theorem sameOutside_write? {m m' : Memory} {address : Int} {data : List UInt8} {count : Nat}
    (nonnegative : 0 ≤ address) (fits : data.length ≤ count) (written : m.write? address data = some m') :
    SameOutside address count m m' := by
  lift address to Nat using nonnegative
  obtain ⟨inside, rfl⟩ := write?_some _ written
  exact sameOutside_overwrite m address count data inside fits

theorem length_slice (m : Memory) (start stop : Int) :
    (m.slice start stop).length = m.clamp stop - m.clamp start := by
  have within : m.clamp stop ≤ m.bytes.size := by
    unfold clamp size
    split <;> omega
  rw [slice, Array.length_toList]
  change (m.bytes.extract _ _).size = _
  rw [ByteArray.size_extract, Nat.min_eq_left within]

theorem length_slice_le (m : Memory) (address : Int) (count : Nat) :
    (m.slice address (address + count)).length ≤ count := by
  rw [length_slice]
  unfold clamp
  split <;> split <;> omega

def Spans (m : Memory) (address : Int) (count : Nat) : Prop :=
  count = 0 ∨ (0 ≤ address ∧ address + count ≤ m.size) ∨ (-m.size ≤ address ∧ address + count < 0)

instance (m : Memory) (address : Int) (count : Nat) : Decidable (m.Spans address count) :=
  inferInstanceAs (Decidable (_ ∨ _ ∨ _))

theorem length_slice_eq_iff (m : Memory) (address : Int) (count : Nat) :
    (m.slice address (address + count)).length = count ↔ m.Spans address count := by
  rw [length_slice, Spans]
  unfold clamp
  split <;> split <;> omega

end PluginKit.Memory
