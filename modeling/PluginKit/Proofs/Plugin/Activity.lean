import PluginKit.Plugin.Formatter

/-!
Activities that carry a state and may fail. Sequences are taken apart at their first part: it either goes
well, and the rest runs from where it ended, or it fails, and the rest is not run.
-/

namespace PluginKit

namespace Activity

variable {ε s α β : Type} {x : ExceptT ε (StateM s) α} {k : α → ExceptT ε (StateM s) β}
  {a : α} {e : ε} {st st' : s}

theorem toOption_eq_some_iff {x : Except ε α} : x.toOption = some a ↔ x = .ok a := by
  cases x <;> simp [Except.toOption]

theorem bind_apply (x : ExceptT ε (StateM s) α) (k : α → ExceptT ε (StateM s) β) (st : s) :
    (x >>= k) st = ExceptT.bindCont k (x st).1 (x st).2 := rfl

theorem bind_ok (run : x st = (.ok a, st')) : (x >>= k) st = k a st' := by
  rw [bind_apply, run]
  rfl

theorem bind_error (run : x st = (.error e, st')) : (x >>= k) st = (.error e, st') := by
  rw [bind_apply, run]
  rfl

theorem run_cases (x : ExceptT ε (StateM s) α) (st : s) :
    (∃ a st', x st = (.ok a, st')) ∨ ∃ e st', x st = (.error e, st') :=
  match x st with
  | (.ok a, st') => .inl ⟨a, st', rfl⟩
  | (.error e, st') => .inr ⟨e, st', rfl⟩

theorem bind_cases (x : ExceptT ε (StateM s) α) (k : α → ExceptT ε (StateM s) β) (st : s) :
    (∃ a st', x st = (.ok a, st') ∧ (x >>= k) st = k a st') ∨
      ∃ e st', x st = (.error e, st') ∧ (x >>= k) st = (.error e, st') := by
  rcases run_cases x st with ⟨a, st', run⟩ | ⟨e, st', run⟩
  · exact .inl ⟨a, st', run, bind_ok run⟩
  · exact .inr ⟨e, st', run, bind_error run⟩

theorem bind_fst_ok {b : β} (run : ((x >>= k) st).1 = .ok b) :
    ∃ a st', x st = (.ok a, st') ∧ (k a st').1 = .ok b := by
  rcases bind_cases x k st with ⟨a, st', first, eq⟩ | ⟨e, st', -, eq⟩ <;> rw [eq] at run
  · exact ⟨a, st', first, run⟩
  · cases run

theorem bind_pure_snd (x : ExceptT ε (StateM s) α) (f : α → β) (st : s) :
    ((do pure (f (← x))) st).2 = (x st).2 := by
  rcases bind_cases x (fun a => pure (f a)) st with ⟨a, st', run, eq⟩ | ⟨e, st', run, eq⟩ <;> rw [eq, run]
  rfl

theorem bind_pure_fst (x : ExceptT ε (StateM s) α) (f : α → β) (st : s) :
    ((do pure (f (← x))) st).1 = (x st).1.map f := by
  rcases bind_cases x (fun a => pure (f a)) st with ⟨a, st', run, eq⟩ | ⟨e, st', run, eq⟩ <;> rw [eq, run] <;> rfl

theorem bind_pure_error {f : α → β} (failed : ((do pure (f (← x))) st).1 = .error e) : (x st).1 = .error e := by
  rcases bind_cases x (fun a => pure (f a)) st with ⟨a, st', run, eq⟩ | ⟨e', st', run, eq⟩ <;> rw [eq] at failed
  · cases failed
  · cases failed
    rw [run]

theorem get_bind (k : s → ExceptT ε (StateM s) β) (st : s) :
    ((get : ExceptT ε (StateM s) s) >>= k) st = k st st := rfl

theorem modify_bind (f : s → s) (k : Unit → ExceptT ε (StateM s) β) (st : s) :
    ((modify f : ExceptT ε (StateM s) Unit) >>= k) st = k () (f st) := rfl

/-- What an activity ends in has a property whenever what it starts from has it, also if it fails. -/
def Keeps (I : s → Prop) (x : ExceptT ε (StateM s) α) : Prop := ∀ st, I st → I (x st).2

namespace Keeps

variable {I : s → Prop}

theorem pure (a : α) : Keeps I (pure a : ExceptT ε (StateM s) α) := fun _ holds => holds

theorem throw (e : ε) : Keeps I (throw e : ExceptT ε (StateM s) α) := fun _ holds => holds

theorem bind (first : Keeps I x) (rest : ∀ a, Keeps I (k a)) : Keeps I (x >>= k) := by
  intro st holds
  have mid := first st holds
  rcases bind_cases x k st with ⟨a, st', run, eq⟩ | ⟨e, st', run, eq⟩ <;>
    rw [run] at mid <;> rw [eq]
  · exact rest a st' mid
  · exact mid

theorem get_bind {k : s → ExceptT ε (StateM s) β} (rest : ∀ a, Keeps I (k a)) :
    Keeps I ((get : ExceptT ε (StateM s) s) >>= k) := fun st holds => rest st st holds

end Keeps

/-- An activity leads from one property to another if it goes well, and to a third if it fails. -/
def Leads (I K J : s → Prop) (x : ExceptT ε (StateM s) α) : Prop :=
  ∀ st, I st → match x st with
    | (.ok _, st') => K st'
    | (.error _, st') => J st'

theorem Keeps.leads {I K J : s → Prop} (keeps : Keeps I x) (well : ∀ st, I st → K st)
    (failed : ∀ st, I st → J st) : Leads I K J x := by
  intro st holds
  have after := keeps st holds
  rcases run_cases x st with ⟨a, st', run⟩ | ⟨e, st', run⟩ <;> rw [run] at after ⊢
  · exact well st' after
  · exact failed st' after

namespace Leads

variable {I K J L : s → Prop}

theorem imp {I' K' : s → Prop} (leads : Leads I K J x) (before : ∀ st, I' st → I st)
    (well : ∀ st, K st → K' st) : Leads I' K' J x := by
  intro st holds
  have after := leads st (before st holds)
  rcases run_cases x st with ⟨a, st', run⟩ | ⟨e, st', run⟩ <;> rw [run] at after ⊢
  · exact well st' after
  · exact after

theorem pure (a : α) (weaken : ∀ st, I st → K st) : Leads I K J (pure a : ExceptT ε (StateM s) α) := weaken

theorem throw (e : ε) (weaken : ∀ st, I st → J st) : Leads I K J (throw e : ExceptT ε (StateM s) α) := weaken

theorem bind (first : Leads I K J x) (rest : ∀ a, Leads K L J (k a)) : Leads I L J (x >>= k) := by
  intro st holds
  have mid := first st holds
  rcases bind_cases x k st with ⟨a, st', run, eq⟩ | ⟨e, st', run, eq⟩ <;> rw [run] at mid <;> rw [eq]
  · exact rest a st' mid
  · exact mid

theorem get_bind {k : s → ExceptT ε (StateM s) β} (rest : ∀ a, I a → Leads (· = a) K J (k a)) :
    Leads I K J ((get : ExceptT ε (StateM s) s) >>= k) := fun st holds => rest st holds st rfl

theorem keeps (leads : Leads I J J x) {st : s} (holds : I st) : J (x st).2 := by
  have after := leads st holds
  rcases run_cases x st with ⟨a, st', run⟩ | ⟨e, st', run⟩ <;> rw [run] at after ⊢ <;> exact after

end Leads

/-- An activity keeps a property of what it works on; what it gives has a second property, and what it fails with
a third. -/
def Yields (I : s → Prop) (K : α → Prop) (E : ε → Prop) (x : ExceptT ε (StateM s) α) : Prop :=
  ∀ st, I st → I (x st).2 ∧ (∀ a, (x st).1 = .ok a → K a) ∧ ∀ e, (x st).1 = .error e → E e

abbrev Raises (I : s → Prop) (E : ε → Prop) (x : ExceptT ε (StateM s) α) : Prop := Yields I (fun _ => True) E x

theorem Keeps.raises {I : s → Prop} (keeps : Keeps I x) : Raises I (fun _ => True) x :=
  fun st holds => ⟨keeps st holds, fun _ _ => trivial, fun _ _ => trivial⟩

namespace Yields

variable {I : s → Prop} {K : α → Prop} {L : β → Prop} {E : ε → Prop}

theorem imp {K' : α → Prop} {E' : ε → Prop} (yields : Yields I K E x) (well : ∀ a, K a → K' a)
    (failed : ∀ e, E e → E' e) : Yields I K' E' x := by
  intro st holds
  obtain ⟨after, gives, fails⟩ := yields st holds
  exact ⟨after, fun a ok => well a (gives a ok), fun e error => failed e (fails e error)⟩

theorem pure (given : K a) : Yields I K E (pure a : ExceptT ε (StateM s) α) := by
  intro st holds
  refine ⟨holds, fun b ok => ?_, fun e error => ?_⟩
  · cases ok
    exact given
  · cases error

theorem throw (fails : E e) : Yields I K E (throw e : ExceptT ε (StateM s) α) := by
  intro st holds
  refine ⟨holds, fun b ok => ?_, fun e' error => ?_⟩
  · cases ok
  · cases error
    exact fails

theorem bind (first : Yields I K E x) (rest : ∀ a, K a → Yields I L E (k a)) : Yields I L E (x >>= k) := by
  intro st holds
  obtain ⟨mid, gives, fails⟩ := first st holds
  rcases bind_cases x k st with ⟨a, st', run, eq⟩ | ⟨e, st', run, eq⟩ <;> rw [run] at mid gives fails <;> rw [eq]
  · exact rest a (gives a rfl) st' mid
  · refine ⟨mid, fun b ok => ?_, fun e' error => ?_⟩
    · cases ok
    · cases error
      exact fails e rfl

theorem get_bind {k : s → ExceptT ε (StateM s) β} (rest : ∀ a, I a → Yields I L E (k a)) :
    Yields I L E ((get : ExceptT ε (StateM s) s) >>= k) := fun st holds => rest st holds st holds

theorem modify {f : s → s} (keeps : ∀ st, I st → I (f st)) :
    Raises I E (modify f : ExceptT ε (StateM s) Unit) := by
  intro st holds
  refine ⟨keeps st holds, fun _ _ => trivial, fun e error => ?_⟩
  cases error

theorem keeps (yields : Yields I K E x) : Keeps I x := fun st holds => (yields st holds).1

theorem fails (yields : Yields I K E x) (holds : I st) (failed : (x st).1 = .error e) : E e :=
  (yields st holds).2.2 e failed

end Yields

/-- Two activities that give the same result and lead from related states to related states. -/
def Mirrors {t : Type} (R : s → t → Prop) (x : ExceptT ε (StateM s) α) (y : ExceptT ε (StateM t) α) : Prop :=
  ∀ a b, R a b → (x a).1 = (y b).1 ∧ R (x a).2 (y b).2

namespace Mirrors

variable {t : Type} {R : s → t → Prop} {y : ExceptT ε (StateM t) α} {l : α → ExceptT ε (StateM t) β}

theorem pure (a : α) : Mirrors R (pure a : ExceptT ε (StateM s) α) (pure a) :=
  fun _ _ related => ⟨rfl, related⟩

theorem throw (e : ε) : Mirrors R (throw e : ExceptT ε (StateM s) α) (throw e) :=
  fun _ _ related => ⟨rfl, related⟩

theorem modify {f : s → s} {g : t → t} (step : ∀ a b, R a b → R (f a) (g b)) :
    Mirrors R (modify f : ExceptT ε (StateM s) Unit) (modify g) :=
  fun a b related => ⟨rfl, step a b related⟩

theorem bind (first : Mirrors R x y) (rest : ∀ a, Mirrors R (k a) (l a)) : Mirrors R (x >>= k) (y >>= l) := by
  intro a b related
  have mid := first a b related
  rcases bind_cases x k a with ⟨c, a', run, eq⟩ | ⟨e, a', run, eq⟩ <;>
    rcases bind_cases y l b with ⟨d, b', run', eq'⟩ | ⟨e', b', run', eq'⟩ <;>
    rw [run, run'] at mid <;> rw [eq, eq'] <;> obtain ⟨same, related'⟩ := mid <;> cases same
  · exact rest c a' b' related'
  · exact ⟨rfl, related'⟩

theorem get_bind {k : s → ExceptT ε (StateM s) β} {l : t → ExceptT ε (StateM t) β}
    (rest : ∀ a b, R a b → Mirrors R (k a) (l b)) :
    Mirrors R ((get : ExceptT ε (StateM s) s) >>= k) ((get : ExceptT ε (StateM t) t) >>= l) :=
  fun a b related => rest a b related a b related

theorem ok {c : α} {p : s} {q q' : t} (mirrors : Mirrors R x y) (related : R p q) (run : y q = (.ok c, q')) :
    ∃ p', x p = (.ok c, p') ∧ R p' q' := by
  obtain ⟨same, after⟩ := mirrors p q related
  rw [run] at same after
  exact ⟨(x p).2, Prod.ext same rfl, after⟩

theorem error {p : s} {q q' : t} (mirrors : Mirrors R x y) (related : R p q) (run : y q = (.error e, q')) :
    ∃ p', x p = (.error e, p') ∧ R p' q' := by
  obtain ⟨same, after⟩ := mirrors p q related
  rw [run] at same after
  exact ⟨(x p).2, Prod.ext same rfl, after⟩

end Mirrors

end Activity

end PluginKit
