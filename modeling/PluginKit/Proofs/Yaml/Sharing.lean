import Mathlib.Data.List.Perm.Subperm
import Mathlib.Logic.Relation
import PluginKit.Yaml.Document

/-!
Documents whose nodes are not inside of themselves. What a node stands for depends on the nodes inside of it only, and
not on where it is used; so a name that is dropped from an object is missing only where that object is used.
-/

namespace PluginKit.Yaml

/-! ## Nodes inside of others -/

def Built.parts : Built → List Nat
  | .word _ => []
  | .list items => items
  | .pairs items => items.flatMap fun pair => [pair.1, pair.2]
  | .object fields => fields.map Prod.snd
  | .set _ => []

def partsOf (built : Array (Option Built)) (id : Nat) : List Nat := ((built.getD id none).map Built.parts).getD []

def Inside (built : Array (Option Built)) (part id : Nat) : Prop := part ∈ partsOf built id

open Relation

variable {built built' : Array (Option Built)} {id part steps steps' : Nat} {outer outer' : List Nat}

theorem lt_size_of_getD {b : Built} (held : built.getD id none = some b) : id < built.size := by
  by_contra outside
  simp [Array.getD, outside] at held

theorem lt_size_of_inside (inside : Inside built part id) : id < built.size := by
  by_contra outside
  simp [Inside, partsOf, Array.getD, outside] at inside

theorem not_inside_self (grounded : Acc (Inside built) id) : ¬ TransGen (Inside built) id id := by
  have irrefl : ∀ {n}, Acc (TransGen (Inside built)) n → ¬ TransGen (Inside built) n n := by
    intro n accessible
    induction accessible with
    | intro n _ ih => exact fun self => ih n self self
  exact irrefl grounded.transGen

structure Suffices (built : Array (Option Built)) (steps : Nat) (outer : List Nat) (id : Nat) : Prop where
  nodup : outer.Nodup
  bounded : ∀ o ∈ outer, o < built.size
  enough : built.size < steps + outer.length
  above : ∀ o ∈ outer, TransGen (Inside built) id o

theorem Suffices.succ (enough : Suffices built steps outer id) : ∃ n, steps = n + 1 := by
  have listed : outer ⊆ List.range built.size := fun o member => List.mem_range.mpr (enough.bounded o member)
  have short := (List.subperm_of_subset enough.nodup listed).length_le
  rw [List.length_range] at short
  have size := enough.enough
  exact Nat.exists_eq_succ_of_ne_zero (by omega)

theorem Suffices.not_mem (enough : Suffices built steps outer id) (grounded : Acc (Inside built) id) :
    id ∉ outer :=
  fun member => not_inside_self grounded (enough.above id member)

theorem Suffices.inside (enough : Suffices built (steps + 1) outer id) (grounded : Acc (Inside built) id)
    (inside : Inside built part id) : Suffices built steps (id :: outer) part where
  nodup := List.nodup_cons.mpr ⟨enough.not_mem grounded, enough.nodup⟩
  bounded := List.forall_mem_cons.mpr ⟨lt_size_of_inside inside, enough.bounded⟩
  enough := by
    have enough := enough.enough
    rw [List.length_cons]
    omega
  above := List.forall_mem_cons.mpr ⟨.single inside, fun o member => .head inside (enough.above o member)⟩

theorem Suffices.root : Suffices built (built.size + 1) [] id where
  nodup := List.nodup_nil
  bounded := fun _ member => (nomatch member)
  enough := Nat.lt_succ_self _
  above := fun _ member => (nomatch member)

/-! ## Values -/

theorem snd_mem_of_mem_withoutRepeats {pairs : List (Nat × Nat)} {pair : Nat × Nat}
    (member : pair ∈ withoutRepeats built pairs) : pair.2 ∈ pairs.map Prod.snd := by
  induction pairs generalizing pair with
  | nil => cases member
  | cons first rest ih =>
      have last : ∀ {value}, (withoutRepeats built rest).lookup first.1 = some value → value ∈ rest.map Prod.snd := by
        intro value found
        rw [List.lookup_eq_findSome?] at found
        obtain ⟨other, listed, found⟩ := List.exists_of_findSome?_eq_some found
        simp only [Option.ite_none_right_eq_some, Option.some.injEq] at found
        exact found.2 ▸ ih listed
      unfold withoutRepeats at member
      dsimp only at member
      rw [List.map_cons, List.mem_cons]
      repeat' split at member
      · rename_i found
        rcases List.mem_cons.mp member with rfl | member
        · exact .inr (last found)
        · exact .inr (ih (List.mem_of_mem_filter member))
      all_goals exact (List.mem_cons.mp member).imp (congrArg Prod.snd) ih

theorem fieldsOf_congr {f g : Nat → Value} {pairs : List (Nat × Nat)} (keys : keyOf built' = keyOf built)
    (same : ∀ value ∈ pairs.map Prod.snd, f value = g value) : fieldsOf built f pairs = fieldsOf built' g pairs := by
  have repeats : withoutRepeats built' pairs = withoutRepeats built pairs := by
    induction pairs with
    | nil => rfl
    | cons first rest ih => rw [withoutRepeats, withoutRepeats, ih fun value listed => same value (by simp_all), keys]
  rw [fieldsOf, fieldsOf, repeats, keys]
  congr 1
  refine List.map_congr_left fun pair member => ?_
  rw [same pair.2 (snd_mem_of_mem_withoutRepeats member)]

structure Agree (built built' : Array (Option Built)) (P : Nat → Prop) : Prop where
  keys : keyOf built' = keyOf built
  size : built'.size = built.size
  same : ∀ id, P id → built'.getD id none = built.getD id none
  closed : ∀ id, P id → ∀ part, Inside built part id → P part

theorem Agree.valueWithin {P : Nat → Prop} (agree : Agree built built' P) (grounded : Acc (Inside built) id)
    (member : P id) (enough : Suffices built steps outer id) (enough' : Suffices built steps' outer' id) :
    valueWithin built steps outer id = valueWithin built' steps' outer' id := by
  induction grounded generalizing steps steps' outer outer' with
  | intro id below ih =>
      have grounded := Acc.intro id below
      obtain ⟨steps, rfl⟩ := enough.succ
      obtain ⟨steps', rfl⟩ := enough'.succ
      have parts : ∀ part ∈ partsOf built id, Yaml.valueWithin built steps (id :: outer) part =
          Yaml.valueWithin built' steps' (id :: outer') part := fun part inside =>
        ih part inside (agree.closed id member part inside) (enough.inside grounded inside)
          (enough'.inside grounded inside)
      have held := agree.same id member
      rw [Yaml.valueWithin, Yaml.valueWithin]
      have out : outer.contains id = false := by simpa using enough.not_mem grounded
      have out' : outer'.contains id = false := by simpa using enough'.not_mem grounded
      simp only [out, out', held, Bool.false_eq_true, if_false]
      cases found : built.getD id none with
      | none => rfl
      | some b =>
          have eq : partsOf built id = b.parts := by rw [partsOf, found]; rfl
          rw [eq] at parts
          cases b with
          | word value => rfl
          | list items => exact congrArg Value.list (List.map_congr_left parts)
          | pairs items =>
              refine congrArg Value.list (List.map_congr_left fun pair listed => ?_)
              rw [parts pair.1 (List.mem_flatMap.mpr ⟨pair, listed, by simp⟩),
                parts pair.2 (List.mem_flatMap.mpr ⟨pair, listed, by simp⟩)]
          | object fields => exact congrArg Value.object (fieldsOf_congr agree.keys parts)
          | set members =>
              exact congrArg (fun fields => Value.set (List.map Prod.fst fields))
                (fieldsOf_congr agree.keys fun _ _ => rfl)

theorem agree_self : Agree built built fun _ => True := ⟨rfl, rfl, fun _ _ => rfl, fun _ _ _ _ => trivial⟩

/-! ## Dropping a name -/

namespace Document

variable {d d' : Document} {name : String} {node levels : Nat} {fields : List (Nat × Nat)}

theorem object?_eq_some : d.object? id = some fields ↔ d.built.getD id none = some (.object fields) := by
  unfold object?
  split
  · rename_i held
    simp [held]
  · rename_i other
    exact ⟨fun built => (nomatch built), fun held => absurd held (other fields)⟩

theorem erase_of_not_object (other : d.object? node = none) : d.erase name node = d := by
  rw [erase, other]

theorem getD_erase (held : d.object? node = some fields) :
    (d.erase name node).built.getD id none =
      if id = node then some (.object (fields.filter fun field => !d.hasName name field))
      else d.built.getD id none := by
  have present : node < d.built.size := lt_size_of_getD (object?_eq_some.mp held)
  rw [erase, held]
  simp only [Array.getD_eq_getD_getElem?, Array.getElem?_setIfInBounds]
  by_cases here : node = id
  · subst here
    simp [present]
  · rw [if_neg here, if_neg (Ne.symm here)]

theorem keyOf_erase (held : d.object? node = some fields) : keyOf (d.erase name node).built = keyOf d.built := by
  funext key
  rw [keyOf, keyOf, getD_erase held]
  by_cases here : key = node
  · subst here
    rw [if_pos rfl, object?_eq_some.mp held]
  · rw [if_neg here]

theorem size_erase : (d.erase name node).built.size = d.built.size := by
  unfold erase
  split <;> simp

theorem agree_of_absent (absent : d.field? name node = none) :
    Agree d.built (d.erase name node).built fun _ => True := by
  cases held : d.object? node with
  | none =>
      rw [erase_of_not_object held]
      exact agree_self
  | some fields =>
      have kept : (fields.filter fun field => !d.hasName name field) = fields := by
        have unnamed : fields.reverse.find? (d.hasName name) = none := by
          cases found : fields.reverse.find? (d.hasName name) with
          | none => rfl
          | some field => simp [field?, held, found] at absent
        rw [List.filter_eq_self]
        intro field listed
        simpa using List.find?_eq_none.mp unnamed field (List.mem_reverse.mpr listed)
      refine ⟨keyOf_erase held, size_erase, fun id _ => ?_, fun _ _ _ _ => trivial⟩
      rw [getD_erase held, kept]
      split
      · rename_i here
        rw [here, object?_eq_some.mp held]
      · rfl

theorem agree_erase {P : Nat → Prop} (held : d.object? node = some fields) (apart : ∀ id, P id → id ≠ node)
    (closed : ∀ id, P id → ∀ part, Inside d.built part id → P part) : Agree d.built (d.erase name node).built P where
  keys := keyOf_erase held
  size := size_erase
  same := fun id member => by rw [getD_erase held, if_neg (apart id member)]
  closed := closed

theorem inside_of_object (held : d.object? id = some fields) (listed : part ∈ fields.map Prod.snd) :
    Inside d.built part id := by
  rw [Inside, partsOf, object?_eq_some.mp held]
  exact listed

theorem copied_object (held : d.object? id = some fields) (grounded : Acc (Inside d.built) id)
    (enough : Suffices d.built steps outer id)
    (parts : ∀ part, Inside d.built part id → ∀ steps outer, Suffices d.built steps outer part →
      d.copied d' levels part = valueWithin d.built steps outer part) :
    d.copied d' (levels + 1) id = valueWithin d.built steps outer id := by
  obtain ⟨steps, rfl⟩ := enough.succ
  have out : outer.contains id = false := by simpa using enough.not_mem grounded
  rw [copied, held, valueWithin]
  simp only [out, object?_eq_some.mp held, Bool.false_eq_true, if_false]
  refine congrArg Value.object (fieldsOf_congr rfl fun part listed => ?_)
  have inside := inside_of_object held listed
  exact parts part inside _ _ (enough.inside grounded inside)

theorem valueOf_of_agree {P : Nat → Prop} (agree : Agree d.built d'.built P) (grounded : Acc (Inside d.built) id)
    (member : P id) (enough : Suffices d.built steps outer id) :
    d'.valueOf id = valueWithin d.built steps outer id := by
  rw [valueOf, agree.size]
  exact (agree.valueWithin grounded member enough .root).symm

theorem copied_of_agree {P : Nat → Prop} (agree : Agree d.built d'.built P) (grounded : Acc (Inside d.built) id)
    (member : P id) (enough : Suffices d.built steps outer id) :
    d.copied d' levels id = valueWithin d.built steps outer id := by
  induction levels generalizing id steps outer with
  | zero => exact valueOf_of_agree agree grounded member enough
  | succ levels ih =>
      cases held : d.object? id with
      | none => rw [copied, held, valueOf_of_agree agree grounded member enough]
      | some fields =>
          exact copied_object held grounded enough fun part inside steps outer enough =>
            ih (grounded.inv inside) (agree.closed id member part inside) enough

theorem copied_erase (grounded : Acc (Inside d.built) id) (held : d.object? id = some fields)
    (only : ∀ other, TransGen (Inside d.built) other id → ¬ Inside d.built node other) :
    d.copied (d.erase name node) (levels + 2) id = d.valueOf id := by
  cases object : d.object? node with
  | none => rw [erase_of_not_object object, copied_of_agree agree_self grounded trivial .root, valueOf]
  | some entries =>
      have agree : Agree d.built (d.erase name node).built fun other =>
          TransGen (Inside d.built) other id ∧ other ≠ node :=
        agree_erase object (fun _ below => below.2) fun other below part inside =>
          ⟨.head inside below.1, fun same => only other below.1 (same ▸ inside)⟩
      refine copied_object held grounded .root fun part inside steps outer enough => ?_
      by_cases here : part = node
      · -- The copy of the object itself is made before the name is dropped.
        subst here
        refine copied_object object (grounded.inv inside) enough fun deeper within steps outer enough => ?_
        refine copied_of_agree agree ((grounded.inv inside).inv within) ⟨.head within (.single inside), ?_⟩ enough
        exact fun same => only part (.single inside) (same ▸ within)
      · exact copied_of_agree agree (grounded.inv inside) ⟨.single inside, here⟩ enough

theorem copied_erase_of_absent (grounded : Acc (Inside d.built) id) (absent : d.field? name node = none) :
    d.copied (d.erase name node) levels id = d.valueOf id :=
  copied_of_agree (agree_of_absent absent) grounded trivial .root

end Document

end PluginKit.Yaml
