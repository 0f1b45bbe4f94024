import Mathlib.Data.List.Nodup
import PluginKit.Schema.Fault

/-!
Reading records: when a chain of checks accepts, and what the fields of an object say under a name.
-/

namespace PluginKit

variable {α β ε : Type}

theorem bind_eq_ok {x : Except ε α} {f : α → Except ε β} {b : β} :
    (x >>= f) = .ok b ↔ ∃ a, x = .ok a ∧ f a = .ok b := by
  cases x with
  | error e => exact ⟨fun eq => (nomatch eq), fun ⟨_, eq, _⟩ => (nomatch eq)⟩
  | ok a => exact ⟨fun eq => ⟨a, rfl, eq⟩, fun ⟨_, same, eq⟩ => by cases same; exact eq⟩

theorem mapError_eq_ok {ε' : Type} {x : Except ε α} {f : ε → ε'} {a : α} :
    x.mapError f = .ok a ↔ x = .ok a := by
  cases x <;> simp [Except.mapError]

namespace Schema.Checked

theorem map_eq_valid {f : α → β} {c : Checked α} {b : β} : f <$> c = .valid b ↔ ∃ a, c = .valid a ∧ f a = b := by
  cases c with
  | valid a => exact ⟨fun eq => ⟨a, rfl, Checked.valid.inj eq⟩, fun ⟨_, same, eq⟩ => by cases same; exact congrArg _ eq⟩
  | invalid faults => exact ⟨fun eq => (nomatch eq), fun ⟨_, eq, _⟩ => (nomatch eq)⟩

theorem seq_eq_valid {f : Checked (α → β)} {c : Checked α} {b : β} :
    f <*> c = .valid b ↔ ∃ g, f = .valid g ∧ ∃ a, c = .valid a ∧ g a = b := by
  cases f with
  | valid g =>
      cases c with
      | valid a =>
          exact ⟨fun eq => ⟨g, rfl, a, rfl, Checked.valid.inj eq⟩,
            fun ⟨_, one, _, two, eq⟩ => by cases one; cases two; exact congrArg _ eq⟩
      | invalid faults => exact ⟨fun eq => (nomatch eq), fun ⟨_, _, _, eq, _⟩ => (nomatch eq)⟩
  | invalid faults =>
      refine ⟨fun eq => ?_, fun ⟨_, eq, _⟩ => (nomatch eq)⟩
      cases c <;> cases eq

theorem under_eq_valid {step : Step} {c : Checked α} {a : α} : c.under step = .valid a ↔ c = .valid a := by
  cases c <;> simp [under]

end Schema.Checked

/-! ## Fields by name -/

theorem Key.same_text (key : Key) (name : String) : key.same (.text name) = true ↔ key = .text name := by
  cases key <;> simp [Key.same, Key.number?]

namespace Fields

theorem get?_nil (name : String) : get? [] name = none := rfl

theorem get?_cons (key : Key) (value : Value) (rest : Fields) (name : String) :
    get? ((key, value) :: rest) name = if key = .text name then some value else get? rest name := by
  by_cases same : key = .text name
  · have here : key.same (.text name) = true := (Key.same_text key name).mpr same
    rw [get?, find?, List.find?_cons_of_pos (by exact here), if_pos same, Option.map_some]
  · have other : key.same (.text name) = false := Bool.eq_false_iff.mpr fun eq => same ((Key.same_text _ _).mp eq)
    rw [get?, find?, List.find?_cons_of_neg (by simp [other]), if_neg same, get?, find?]

theorem get?_put (fields : Fields) (name wanted : String) (value : Value) :
    (fields.put (.text name) value).get? wanted = if name = wanted then some value else fields.get? wanted := by
  induction fields with
  | nil => simp [put, get?_cons (.text name)]
  | cons field rest ih =>
      obtain ⟨key, old⟩ := field
      rw [put]
      split
      · rename_i same
        rw [(Key.same_text _ _).mp same, get?_cons, get?_cons]
        by_cases found : name = wanted <;> simp [found]
      · rename_i other
        rw [get?_cons, get?_cons, ih]
        by_cases here : key = .text wanted
        · have apart : name ≠ wanted := by
            rintro rfl
            exact other ((Key.same_text _ _).mpr here)
          simp [here, apart]
        · simp [here]

theorem get?_filter (fields : Fields) (p : Key × Value → Bool) (name : String)
    (kept : ∀ value, p (.text name, value) = true) : get? (List.filter p fields) name = fields.get? name := by
  induction fields with
  | nil => rfl
  | cons field rest ih =>
      obtain ⟨key, value⟩ := field
      rw [get?_cons, List.filter_cons]
      by_cases here : key = .text name
      · rw [here, if_pos (kept value), get?_cons, if_pos rfl, if_pos rfl]
      · rw [if_neg here, ← ih]
        split
        · rw [get?_cons, if_neg here]
        · rfl

theorem get?_filterMap (names : List String) (g : String → Option Value) (name : String) :
    get? (names.filterMap fun n => (g n).map fun value => (Key.text n, value)) name =
      if name ∈ names then g name else none := by
  induction names with
  | nil => rfl
  | cons n rest ih =>
      rw [List.filterMap_cons]
      by_cases here : n = name
      · subst here
        cases found : g n with
        | none => simp [ih, found]
        | some value => simp [get?_cons]
      · have apart : name ≠ n := fun same => here same.symm
        cases g n with
        | none => simp [ih, apart]
        | some value => simp [get?_cons, ih, here, apart]

structure Distinct (fields : Fields) : Prop where
  named : ∀ field ∈ fields, ∃ name, field.1 = .text name
  nodup : (fields.map Prod.fst).Nodup

theorem distinct_nil : Distinct [] := ⟨fun _ member => (nomatch member), List.nodup_nil⟩

theorem Distinct.of_cons {field : Key × Value} {rest : Fields} (distinct : Distinct (field :: rest)) :
    (∃ name, field.1 = .text name ∧ get? rest name = none) ∧ Distinct rest := by
  obtain ⟨fresh, nodup⟩ := List.nodup_cons.mp distinct.nodup
  obtain ⟨name, named⟩ := distinct.named field List.mem_cons_self
  refine ⟨⟨name, named, ?_⟩, fun field member => distinct.named field (List.mem_cons_of_mem _ member), nodup⟩
  rw [get?, find?, Option.map_eq_none_iff, List.find?_eq_none]
  intro other member same
  rw [named, ← (Key.same_text _ _).mp same] at fresh
  exact fresh (List.mem_map_of_mem member)

theorem distinct_filterMap {names : List String} (nodup : names.Nodup) (g : String → Option Value) :
    Distinct (names.filterMap fun n => (g n).map fun value => (Key.text n, value)) where
  named field member := by
    obtain ⟨n, -, made⟩ := List.mem_filterMap.mp member
    obtain ⟨value, -, rfl⟩ := Option.map_eq_some_iff.mp made
    exact ⟨n, rfl⟩
  nodup := by
    have keys : (names.filterMap fun n => (g n).map fun value => (Key.text n, value)).map Prod.fst =
        (names.filter fun n => (g n).isSome).map Key.text := by
      induction names with
      | nil => rfl
      | cons n rest ih =>
          have rest := ih (List.nodup_cons.mp nodup).2
          cases found : g n <;> simp [found, rest]
    rw [keys]
    exact (nodup.filter _).map (f := Key.text) fun _ _ same => Key.text.inj same

theorem keys_put (fields : Fields) (key : Key) (value : Value) :
    (fields.put key value).map Prod.fst =
      if fields.any fun field => field.1.same key then fields.map Prod.fst else fields.map Prod.fst ++ [key] := by
  induction fields with
  | nil => rfl
  | cons field rest ih =>
      obtain ⟨k, old⟩ := field
      rw [put]
      by_cases same : k.same key
      · simp [same]
      · simp only [same, Bool.false_eq_true, if_false, List.map_cons, ih, List.any_cons, Bool.false_or]
        split <;> simp

theorem Distinct.put {fields : Fields} (distinct : Distinct fields) (name : String) (value : Value) :
    Distinct (fields.put (.text name) value) := by
  have keys := keys_put fields (.text name) value
  constructor
  · intro field member
    have listed := List.mem_map_of_mem (f := Prod.fst) member
    rw [keys] at listed
    split at listed
    · obtain ⟨old, member, same⟩ := List.mem_map.mp listed
      exact same ▸ distinct.named old member
    · rcases List.mem_append.mp listed with listed | last
      · obtain ⟨old, member, same⟩ := List.mem_map.mp listed
        exact same ▸ distinct.named old member
      · exact ⟨name, List.mem_singleton.mp last⟩
  · rw [keys]
    split
    · exact distinct.nodup
    · rename_i absent
      refine List.nodup_append.mpr ⟨distinct.nodup, List.nodup_singleton _, ?_⟩
      rintro key listed _ last rfl
      obtain ⟨old, member, same⟩ := List.mem_map.mp listed
      rw [List.mem_singleton.mp last] at same
      exact absent (List.any_eq_true.mpr ⟨old, member, (Key.same_text _ _).mpr same⟩)

theorem mem_of_get? {fields : Fields} {name : String} {value : Value} (found : fields.get? name = some value) :
    (.text name, value) ∈ fields := by
  induction fields with
  | nil => cases found
  | cons field rest ih =>
      obtain ⟨key, own⟩ := field
      rw [get?_cons] at found
      split at found
      · rename_i here
        cases found
        simp [here]
      · exact List.mem_cons_of_mem _ (ih found)

theorem get?_of_mem {fields : Fields} {name : String} {value : Value} (member : (.text name, value) ∈ fields) :
    ∃ found, fields.get? name = some found := by
  induction fields with
  | nil => cases member
  | cons field rest ih =>
      obtain ⟨key, own⟩ := field
      rw [get?_cons]
      split
      · exact ⟨own, rfl⟩
      · rename_i other
        rcases List.mem_cons.mp member with here | later
        · cases here
          exact absurd rfl other
        · exact ih later

theorem get?_eq_none {fields : Fields} {name : String} (absent : ∀ field ∈ fields, field.1 ≠ .text name) :
    fields.get? name = none := by
  cases found : fields.get? name with
  | none => rfl
  | some value => exact absurd rfl (absent _ (mem_of_get? found))

theorem get?_perm {fields others : Fields} {name : String} (perm : fields.Perm others)
    (once : ∀ v w, (.text name, v) ∈ others → (.text name, w) ∈ others → v = w) :
    fields.get? name = others.get? name := by
  cases found : others.get? name with
  | none =>
      refine get?_eq_none fun field member here => ?_
      obtain ⟨key, value⟩ := field
      cases here
      obtain ⟨value, there⟩ := get?_of_mem (perm.mem_iff.mp member)
      rw [found] at there
      cases there
  | some value =>
      have member := mem_of_get? found
      obtain ⟨own, here⟩ := get?_of_mem (perm.mem_iff.mpr member)
      rw [here, once own value (perm.mem_iff.mp (mem_of_get? here)) member]

theorem put_fresh {fields : Fields} {key : Key} (fresh : ∀ field ∈ fields, field.1.same key = false) (value : Value) :
    fields.put key value = fields ++ [(key, value)] := by
  induction fields with
  | nil => rfl
  | cons field rest ih =>
      obtain ⟨k, old⟩ := field
      have other : k.same key = false := fresh _ List.mem_cons_self
      rw [put, if_neg (by simp [other]), ih fun field member => fresh field (List.mem_cons_of_mem _ member),
        List.cons_append]

theorem ofPairs_distinct {fields : Fields} (distinct : fields.Distinct) : ofPairs fields = fields := by
  have puts : ∀ (rest before : Fields), Distinct (before ++ rest) →
      rest.foldl (fun fields pair => put fields pair.1 pair.2) before = before ++ rest := by
    intro rest
    induction rest with
    | nil => intro before _; rw [List.foldl_nil, List.append_nil]
    | cons field rest ih =>
        intro before distinct
        obtain ⟨name, named⟩ := distinct.named field (by simp)
        have apart := (List.nodup_append.mp (List.map_append ▸ distinct.nodup)).2.2
        have fresh : ∀ old ∈ before, old.1.same field.1 = false := by
          intro old member
          rw [named, Bool.eq_false_iff, ne_eq, Key.same_text, ← named]
          exact apart _ (List.mem_map_of_mem member) _ (by simp)
        rw [List.foldl_cons, put_fresh fresh, ih, List.append_assoc, List.singleton_append]
        rwa [List.append_assoc, List.singleton_append]
  exact puts fields [] distinct

end Fields

end PluginKit
