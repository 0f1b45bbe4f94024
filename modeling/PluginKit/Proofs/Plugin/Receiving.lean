import PluginKit.Proofs.Plugin.Memory
import PluginKit.Proofs.Plugin.Silent

/-!
Receiving from plugins that point anywhere. Through a buffer a text comes round by round, until all the bytes that were
announced are there: it is never short, but the rounds may go on for ever. In place there is one read, which ends where
the memory ends.
-/

namespace PluginKit

open Activity

variable {σ : Type}

namespace Binary64

variable {x : Binary64} {n : Int}

theorem toInt?_eq_some (whole : x.toInt? = some n) : x.isFinite = true ∧ x.truncate = n := by
  unfold toInt? at whole
  split at whole
  · cases whole
  · rename_i finite
    split at whole
    · exact ⟨by simpa using finite, Option.some.inj whole⟩
    · cases whole

theorem ceiling_of_whole (whole : x.toInt? = some n) : x.ceiling = n := by
  rw [ceiling, whole, Option.isSome_some, Bool.or_true, if_pos rfl, (toInt?_eq_some whole).2]

theorem le_zero_of_atMostZero (whole : x.toInt? = some n) (low : (x.isNaN || x.atMostZero) = true) : n ≤ 0 := by
  obtain ⟨finite, rfl⟩ := toInt?_eq_some whole
  have number : x.isNaN = false := by
    simp only [isFinite, bne_iff_ne, ne_eq] at finite
    simp [isNaN, finite]
  have sign : x.negative = true ∨ x.significand = 0 := by
    simpa [atMostZero, isZero, number, finite] using low
  unfold truncate
  rcases sign with negative | zero
  · rw [negative, if_pos rfl]
    omega
  · simp [zero]

end Binary64

namespace Host

variable {p q : Plugin σ} {stage : Stage}

/-! ## Reading -/

theorem read_eq_ok {pointer count : Reply} {bytes : List UInt8} (run : read pointer count p = (.ok bytes, q)) :
    ∃ address n, pointer = .int address ∧ count = .int n ∧ bytes = p.memory.slice address (address + n) ∧ q = p := by
  unfold read at run
  split at run <;> cases run
  exact ⟨_, _, rfl, rfl, rfl, rfl⟩

theorem read_error {pointer count : Reply} {e : PluginError} (run : read pointer count p = (.error e, q)) :
    ∃ fault, e = .mismatch fault := by
  unfold read at run
  split at run <;> cases run
  all_goals exact ⟨_, rfl⟩

theorem fetch_cases_any (stage : Stage) (offset count : Nat) (p : Plugin σ) :
    (∃ chunk q, fetch stage offset count p = (.ok chunk, q) ∧ chunk.length ≤ count) ∨
      ∃ e q, fetch stage offset count p = (.error e, q) ∧ (e.IsCall stage ∨ ∃ fault, e = .mismatch fault) := by
  unfold fetch
  rcases bind_cases (call stage "set_buffer_with_shared_bytes" [(offset : Int), (count : Int)]) _ p with
    ⟨_, p₁, -, eq⟩ | ⟨e, p₁, run, eq⟩ <;> rw [eq]
  · rcases bind_cases (call stage "get_wasm_memory_buffer" []) (fun pointer => read pointer (.int count)) p₁ with
      ⟨pointer, p₂, -, eq⟩ | ⟨e, p₂, run, eq⟩ <;> rw [eq]
    · rcases run_cases (read pointer (.int count)) p₂ with ⟨chunk, q, run⟩ | ⟨e, q, run⟩
      · obtain ⟨address, n, -, same, rfl, -⟩ := read_eq_ok run
        cases same
        exact .inl ⟨_, q, run, Memory.length_slice_le p₂.memory address count⟩
      · exact .inr ⟨e, q, run, .inr (read_error run)⟩
    · exact .inr ⟨e, p₂, rfl, .inl (call_error (congrArg Prod.fst run))⟩
  · exact .inr ⟨e, p₁, rfl, .inl (call_error (congrArg Prod.fst run))⟩

theorem fetch_length {offset count : Nat} {chunk : List UInt8} (run : fetch stage offset count p = (.ok chunk, q)) :
    chunk.length ≤ count := by
  rcases fetch_cases_any stage offset count p with ⟨_, _, eq, fits⟩ | ⟨_, _, eq, -⟩ <;> rw [eq] at run <;> cases run
  exact fits

theorem fetch_error {offset count : Nat} {e : PluginError} (run : fetch stage offset count p = (.error e, q)) :
    e ≠ .stalled := by
  rcases fetch_cases_any stage offset count p with ⟨_, _, eq, -⟩ | ⟨_, _, eq, ⟨_, rfl⟩ | ⟨_, rfl⟩⟩ <;>
    rw [eq] at run <;> cases run
  · exact nofun
  · exact nofun

theorem refuseArgument_error {α : Type} (name : String) (count : Nat) (argument : Binary64) (p : Plugin σ) :
    ∃ e q, refuseArgument (α := α) stage name count argument p = (.error e, q) ∧ e ≠ .stalled := by
  unfold refuseArgument
  split
  · exact ⟨_, _, rfl, nofun⟩
  · split
    · exact ⟨_, _, rfl, nofun⟩
    · exact ⟨_, _, rfl, nofun⟩

/-! ## Rounds -/

abbrev Progress (σ : Type) := List UInt8 × Plugin σ

inductive Round (stage : Stage) (asks : Nat → Option Nat) : Progress σ → Progress σ → Prop
  | fetched {received : List UInt8} {p : Plugin σ} {count : Nat} {chunk : List UInt8} {q : Plugin σ} :
      asks received.length = some count → fetch stage received.length count p = (.ok chunk, q) →
      Round stage asks (received, p) (received ++ chunk, q)

inductive Rounds (stage : Stage) (asks : Nat → Option Nat) : Nat → Progress σ → Progress σ → Prop
  | none (s : Progress σ) : Rounds stage asks 0 s s
  | next {i : Nat} {s t u : Progress σ} : Round stage asks s t → Rounds stage asks i t u → Rounds stage asks (i + 1) s u

def Endless (stage : Stage) (asks : Nat → Option Nat) (s : Progress σ) : Prop := ∀ i, ∃ t, Rounds stage asks i s t

section

variable {asks : Nat → Option Nat} {s t u : Progress σ} {i j : Nat} {received : List UInt8}

theorem Round.unique (first : Round stage asks s t) (second : Round stage asks s u) : t = u := by
  obtain ⟨asked, fetched⟩ := first
  obtain ⟨asked', fetched'⟩ := second
  rw [asked] at asked'
  cases asked'
  rw [fetched] at fetched'
  cases fetched'
  rfl

theorem Rounds.of_le (rounds : Rounds stage asks j s u) (le : i ≤ j) : ∃ t, Rounds stage asks i s t := by
  induction rounds generalizing i with
  | none s =>
      obtain rfl := Nat.le_zero.mp le
      exact ⟨s, .none s⟩
  | next first _ ih =>
      cases i with
      | zero => exact ⟨_, .none _⟩
      | succ i =>
          obtain ⟨t, rest⟩ := ih (Nat.le_of_succ_le_succ le)
          exact ⟨t, .next first rest⟩

theorem Rounds.not_endless (rounds : Rounds stage asks i s t) (last : ∀ u, ¬Round stage asks t u) :
    ¬Endless stage asks s := by
  intro endless
  induction rounds with
  | none s =>
      obtain ⟨u, more⟩ := endless 1
      cases more with
      | next first _ => exact last _ first
  | next first _ ih =>
      refine ih last fun i => ?_
      obtain ⟨u, more⟩ := endless (i + 1)
      cases more with
      | next first' rest => exact ⟨u, first.unique first' ▸ rest⟩

theorem not_round_of_done {bytes : List UInt8} (done : asks bytes.length = none) (u : Progress σ) :
    ¬Round stage asks (bytes, p) u := by
  rintro ⟨asked, -⟩
  rw [done] at asked
  cases asked

theorem not_round_of_failed {bytes : List UInt8} {count : Nat} {e : PluginError}
    (asked : asks bytes.length = some count) (failed : fetch stage bytes.length count p = (.error e, q))
    (u : Progress σ) : ¬Round stage asks (bytes, p) u := by
  rintro ⟨asked', fetched⟩
  rw [asked] at asked'
  cases asked'
  rw [failed] at fetched
  cases fetched

theorem Rounds.length_le {limit : Nat} (within : ∀ {r count}, asks r = some count → r + count ≤ limit)
    (rounds : Rounds stage asks i s t) (le : s.1.length ≤ limit) : t.1.length ≤ limit := by
  induction rounds with
  | none s => exact le
  | next first _ ih =>
      obtain ⟨asked, fetched⟩ := first
      refine ih ?_
      have fits := fetch_length fetched
      have bound := within asked
      rw [List.length_append]
      omega

/-! ## Loops of rounds -/

/-- A loop that makes rounds and then finishes. An empty round is repeated while there is patience. -/
structure Loop (stage : Stage) (asks : Nat → Option Nat) (finish : List UInt8 → Host σ (List UInt8))
    (loop : Nat → List UInt8 → Host σ (List UInt8)) : Prop where
  ends : ∀ {patience received} {p : Plugin σ}, asks received.length = none →
    loop patience received p = finish received p
  fails : ∀ {patience received count e} {p q : Plugin σ}, asks received.length = some count →
    fetch stage received.length count p = (.error e, q) → loop patience received p = (.error e, q)
  stalls : ∀ {received count} {p q : Plugin σ}, asks received.length = some count →
    fetch stage received.length count p = (.ok [], q) → loop 0 received p = (.error .stalled, q)
  waits : ∀ {patience received count} {p q : Plugin σ}, asks received.length = some count →
    fetch stage received.length count p = (.ok [], q) → loop (patience + 1) received p = loop patience received q
  grows : ∀ {patience received count chunk} {p q : Plugin σ}, asks received.length = some count →
    fetch stage received.length count p = (.ok chunk, q) → chunk ≠ [] →
    loop patience received p = loop patience (received ++ chunk) q

namespace Loop

variable {finish : List UInt8 → Host σ (List UInt8)} {loop : Nat → List UInt8 → Host σ (List UInt8)} {limit : Nat}

theorem outcome (is : Loop stage asks finish loop) (below : ∀ {r count}, asks r = some count → r < limit)
    (patience : Nat) (received : List UInt8) (p : Plugin σ) :
    ∃ i bytes q, Rounds stage asks i (received, p) (bytes, q) ∧
      ((asks bytes.length = none ∧ loop patience received p = finish bytes q) ∨
      (∃ count e r, asks bytes.length = some count ∧ fetch stage bytes.length count q = (.error e, r) ∧
        loop patience received p = (.error e, r)) ∨
      (patience < i ∧ loop patience received p = (.error .stalled, q))) := by
  cases asked : asks received.length with
  | none => exact ⟨0, received, p, .none _, .inl ⟨asked, is.ends asked⟩⟩
  | some count =>
      have room := below asked
      rcases run_cases (fetch stage received.length count) p with ⟨chunk, q, fetched⟩ | ⟨e, q, failed⟩
      swap
      · exact ⟨0, received, p, .none _, .inr (.inl ⟨count, e, q, asked, failed, is.fails asked failed⟩)⟩
      by_cases empty : chunk = []
      · subst empty
        have round : Round stage asks (received, p) (received ++ [], q) := .fetched asked fetched
        rw [List.append_nil] at round
        cases patience with
        | zero =>
            exact ⟨1, received, q, .next round (.none _), .inr (.inr ⟨Nat.one_pos, is.stalls asked fetched⟩)⟩
        | succ patience =>
            rw [is.waits asked fetched]
            obtain ⟨i, bytes, r, rounds, outcome⟩ := outcome is below patience received q
            refine ⟨i + 1, bytes, r, .next round rounds, outcome.imp_right (Or.imp_right ?_)⟩
            exact fun ⟨less, stalled⟩ => ⟨Nat.succ_lt_succ less, stalled⟩
      · have more := List.length_pos_iff.mpr empty
        rw [is.grows asked fetched empty]
        obtain ⟨i, bytes, r, rounds, outcome⟩ := outcome is below patience (received ++ chunk) q
        refine ⟨i + 1, bytes, r, .next (.fetched asked fetched) rounds, outcome.imp_right (Or.imp_right ?_)⟩
        exact fun ⟨less, stalled⟩ => ⟨Nat.lt_succ_of_lt less, stalled⟩
termination_by (limit - received.length, patience)
decreasing_by
  · apply Prod.Lex.right
    omega
  · apply Prod.Lex.left
    rw [List.length_append]
    omega

theorem stalls_iff (is : Loop stage asks finish loop) (below : ∀ {r count}, asks r = some count → r < limit)
    (finishes : ∀ bytes p, asks bytes.length = none → (finish bytes p).1 ≠ .error .stalled)
    (received : List UInt8) (p : Plugin σ) :
    (∀ patience, (loop patience received p).1 = .error .stalled) ↔ Endless stage asks (received, p) := by
  constructor
  · intro stalled i
    obtain ⟨j, bytes, q, rounds, ⟨done, eq⟩ | ⟨count, e, r, -, failed, eq⟩ | ⟨less, -⟩⟩ :=
      is.outcome below i received p
    · have never := finishes bytes q done
      rw [← eq] at never
      exact absurd (stalled i) never
    · have same := stalled i
      rw [eq] at same
      cases same
      exact absurd rfl (fetch_error failed)
    · exact rounds.of_le less.le
  · intro endless patience
    obtain ⟨j, bytes, q, rounds, ⟨done, -⟩ | ⟨count, e, r, asked, failed, -⟩ | ⟨-, eq⟩⟩ :=
      is.outcome below patience received p
    · exact absurd endless (rounds.not_endless (not_round_of_done done))
    · exact absurd endless (rounds.not_endless (not_round_of_failed asked failed))
    · rw [eq]

theorem patient (is : Loop stage asks finish loop) (below : ∀ {r count}, asks r = some count → r < limit)
    (patience : Nat) (received : List UInt8) (p : Plugin σ)
    (reached : (loop patience received p).1 ≠ .error .stalled) :
    loop (patience + 1) received p = loop patience received p := by
  cases asked : asks received.length with
  | none => rw [is.ends asked, is.ends asked]
  | some count =>
      have room := below asked
      rcases run_cases (fetch stage received.length count) p with ⟨chunk, q, fetched⟩ | ⟨e, q, failed⟩
      swap
      · rw [is.fails asked failed, is.fails asked failed]
      by_cases empty : chunk = []
      · subst empty
        cases patience with
        | zero =>
            rw [is.stalls asked fetched] at reached
            exact absurd rfl reached
        | succ patience =>
            rw [is.waits asked fetched] at reached
            rw [is.waits asked fetched, is.waits asked fetched, patient is below patience received q reached]
      · have more := List.length_pos_iff.mpr empty
        rw [is.grows asked fetched empty] at reached
        rw [is.grows asked fetched empty, is.grows asked fetched empty]
        exact patient is below patience (received ++ chunk) q reached
termination_by (limit - received.length, patience)
decreasing_by
  · apply Prod.Lex.right
    omega
  · apply Prod.Lex.left
    rw [List.length_append]
    omega

end Loop

end

/-! ## The loops of transfers -/

def wanted (size length received : Nat) : Option Nat :=
  if received < length then some (min (length - received) size) else none

theorem wanted_eq_some {size length received count : Nat} (asked : wanted size length received = some count) :
    received < length ∧ min (length - received) size = count := by
  unfold wanted at asked
  split at asked
  · exact ⟨‹_›, Option.some.inj asked⟩
  · cases asked

def wantedWhole (size length received : Nat) : Option Nat :=
  if received + size < length then some size else none

theorem wantedWhole_eq_some {size length received count : Nat} (asked : wantedWhole size length received = some count) :
    received + size < length ∧ size = count := by
  unfold wantedWhole at asked
  split at asked
  · exact ⟨‹_›, Option.some.inj asked⟩
  · cases asked

end Host

open Host in
/-- How many bytes a transfer asks for next when so many were received, if there is another round. A number of bytes
that is no integer cannot be asked for. -/
def Transfer.asks (transfer : Transfer) (length : Reply) : Nat → Option Nat :=
  match transfer, length with
  | .buffered size _, .int n => wanted size n.toNat
  | .buffered size _, .float x => wantedWhole size x.ceiling.toNat
  | .fractional size, .int n =>
    if size.isFinite && size.truncate < n then fun _ => none else wanted n.toNat n.toNat
  | _, _ => fun _ => none

namespace Host

variable {p q : Plugin σ} {stage : Stage} {transfer : Transfer} {length : Reply} {n : Nat}

theorem receiveChunks_loop (stage : Stage) (size length : Nat) :
    Loop (σ := σ) stage (wanted size length) pure fun patience received =>
      receiveChunks stage size patience length received where
  ends {patience received p} done := by
    have enough : ¬received.length < length := by
      intro short
      simp [wanted, short] at done
    rw [receiveChunks.eq_def, dif_neg enough]
  fails {patience received count e p q} asked failed := by
    obtain ⟨short, rfl⟩ := wanted_eq_some asked
    rw [receiveChunks.eq_def, dif_pos short, bind_error failed]
  stalls {received count p q} asked fetched := by
    obtain ⟨short, rfl⟩ := wanted_eq_some asked
    rw [receiveChunks.eq_def, dif_pos short, bind_ok fetched, dif_pos rfl]
    rfl
  waits {patience received count p q} asked fetched := by
    obtain ⟨short, rfl⟩ := wanted_eq_some asked
    rw [receiveChunks.eq_def, dif_pos short, bind_ok fetched, dif_pos rfl]
  grows {patience received count chunk p q} asked fetched filled := by
    obtain ⟨short, rfl⟩ := wanted_eq_some asked
    rw [receiveChunks.eq_def, dif_pos short, bind_ok fetched, dif_neg filled]

theorem refuseLength_loop (stage : Stage) (size : Nat) (length : Binary64) :
    Loop (σ := σ) stage (wantedWhole size length.ceiling.toNat)
      (fun received => refuseCount stage (length.add (Binary64.ofInt received.length).negate))
      fun patience received => refuseLength stage size patience length received.length where
  ends {patience received p} done := by
    have enough : ¬received.length + size < length.ceiling.toNat := by
      intro short
      simp [wantedWhole, short] at done
    rw [refuseLength.eq_def, dif_neg enough]
  fails {patience received count e p q} asked failed := by
    obtain ⟨short, rfl⟩ := wantedWhole_eq_some asked
    rw [refuseLength.eq_def, dif_pos short, bind_error failed]
  stalls {received count p q} asked fetched := by
    obtain ⟨short, rfl⟩ := wantedWhole_eq_some asked
    rw [refuseLength.eq_def, dif_pos short, bind_ok fetched, dif_pos rfl]
    rfl
  waits {patience received count p q} asked fetched := by
    obtain ⟨short, rfl⟩ := wantedWhole_eq_some asked
    rw [refuseLength.eq_def, dif_pos short, bind_ok fetched, dif_pos rfl]
  grows {patience received count chunk p q} asked fetched filled := by
    obtain ⟨short, rfl⟩ := wantedWhole_eq_some asked
    rw [refuseLength.eq_def, dif_pos short, bind_ok fetched, dif_neg filled, List.length_append]

theorem still_loop (stage : Stage) (finish : List UInt8 → Host σ (List UInt8)) :
    Loop stage (fun _ => none) finish fun _ received => finish received where
  ends _ := rfl
  fails asked := by cases asked
  stalls asked := by cases asked
  waits asked := by cases asked
  grows asked := by cases asked

def Gathers (stage : Stage) (asks : Nat → Option Nat) (n : Nat) (x : Nat → Host σ (List UInt8)) : Prop :=
  ∃ finish loop, Loop stage asks finish loop ∧ (∀ patience, x patience = loop patience []) ∧
    ∀ bytes p, asks bytes.length = none →
      (finish bytes p = (.ok bytes, p) ∧ n ≤ bytes.length) ∨ ∃ e q, finish bytes p = (.error e, q) ∧ e ≠ .stalled

theorem isNumber_cases (announced : length.isNumber n = true) :
    length = .int n ∨ ∃ x : Binary64, length = .float x ∧ x.toInt? = some (n : Int) := by
  cases length with
  | int m => exact .inl (congrArg Reply.int (by simpa [Reply.isNumber] using announced))
  | float x => exact .inr ⟨x, rfl, by simpa [Reply.isNumber] using announced⟩
  | nothing => cases announced
  | many values => cases announced

theorem asks_within (announced : length.isNumber n = true) {r count : Nat}
    (asked : transfer.asks length r = some count) : r < n ∧ r + count ≤ n := by
  rcases isNumber_cases announced with rfl | ⟨x, rfl, whole⟩
  · cases transfer with
    | direct => cases asked
    | buffered size positive =>
        obtain ⟨short, rfl⟩ := wanted_eq_some asked
        omega
    | fractional size =>
        unfold Transfer.asks at asked
        dsimp only at asked
        split at asked
        · cases asked
        · obtain ⟨short, rfl⟩ := wanted_eq_some asked
          omega
  · cases transfer with
    | direct => cases asked
    | fractional size => cases asked
    | buffered size positive =>
        obtain ⟨short, rfl⟩ := wantedWhole_eq_some asked
        rw [Binary64.ceiling_of_whole whole] at short
        omega

theorem gathers_nothing (stage : Stage) {asks : Nat → Option Nat} (never : ∀ r, asks r = none) :
    Gathers (σ := σ) stage asks 0 fun _ => pure [] := by
  obtain rfl : asks = fun _ => none := funext never
  exact ⟨pure, _, still_loop stage pure, fun _ => rfl, fun _ _ _ => .inl ⟨rfl, Nat.zero_le _⟩⟩

theorem gathers_refused (stage : Stage) {asks : Nat → Option Nat} (never : ∀ r, asks r = none) (x : Binary64) :
    Gathers (σ := σ) stage asks n fun _ => refuseCount stage x := by
  obtain rfl : asks = fun _ => none := funext never
  exact ⟨_, _, still_loop stage fun _ => refuseCount stage x, fun _ => rfl,
    fun _ p _ => .inr (refuseArgument_error _ _ x p)⟩

theorem gathers_chunks (stage : Stage) (size : Nat) :
    Gathers (σ := σ) stage (wanted size n) n fun patience => receiveChunks stage size patience n [] := by
  refine ⟨pure, _, receiveChunks_loop stage size n, fun _ => rfl, fun bytes _ done => .inl ⟨rfl, ?_⟩⟩
  unfold wanted at done
  split at done
  · cases done
  · omega

theorem receiveBytes_gathers (announced : length.isNumber n = true) (buffered : transfer ≠ .direct) (stage : Stage) :
    Gathers (σ := σ) stage (transfer.asks length) n (receiveBytes stage transfer · length) := by
  rcases isNumber_cases announced with rfl | ⟨x, rfl, whole⟩
  · cases transfer with
    | direct => exact absurd rfl buffered
    | buffered size positive => exact gathers_chunks stage size
    | fractional size =>
        simp only [receiveBytes, Transfer.asks, Int.toNat_natCast]
        by_cases nothing : (n : Int) ≤ 0
        · obtain rfl : n = 0 := by omega
          simp only [if_pos nothing]
          exact gathers_nothing stage fun r => by split <;> simp [wanted]
        simp only [if_neg nothing]
        split
        · exact gathers_refused stage (fun _ => rfl) size
        · exact gathers_chunks stage n
  · cases transfer with
    | direct => exact absurd rfl buffered
    | buffered size positive =>
        obtain ⟨finite, -⟩ := Binary64.toInt?_eq_some whole
        simp only [receiveBytes, Transfer.asks, Binary64.ceiling_of_whole whole, Int.toNat_natCast, if_pos finite]
        split
        · rename_i low
          obtain rfl : n = 0 := by have := Binary64.le_zero_of_atMostZero whole low; omega
          exact gathers_nothing stage fun r => by simp [wantedWhole]
        · have loop := refuseLength_loop (σ := σ) stage size x
          rw [Binary64.ceiling_of_whole whole, Int.toNat_natCast] at loop
          exact ⟨_, _, loop, fun _ => rfl, fun _ p _ => .inr (refuseArgument_error _ _ _ p)⟩
    | fractional size =>
        simp only [receiveBytes, Transfer.asks]
        split
        · rename_i low
          obtain rfl : n = 0 := by have := Binary64.le_zero_of_atMostZero whole low; omega
          exact gathers_nothing stage fun _ => rfl
        · exact gathers_refused stage (fun _ => rfl) _

namespace Gathers

variable {asks : Nat → Option Nat} {x : Nat → Host σ (List UInt8)} {patience : Nat}

theorem stalls_iff (gathers : Gathers stage asks n x) (below : ∀ {r count}, asks r = some count → r < n)
    (p : Plugin σ) : (∀ patience, (x patience p).1 = .error .stalled) ↔ Endless stage asks ([], p) := by
  obtain ⟨finish, loop, is, same, finishes⟩ := gathers
  simp only [same]
  refine is.stalls_iff below (fun bytes p done => ?_) [] p
  rcases finishes bytes p done with ⟨eq, -⟩ | ⟨e, q, eq, other⟩ <;> rw [eq]
  · exact nofun
  · exact fun stalled => other (Except.error.inj stalled)

theorem patient (gathers : Gathers stage asks n x) (below : ∀ {r count}, asks r = some count → r < n)
    (reached : (x patience p).1 ≠ .error .stalled) : x (patience + 1) p = x patience p := by
  obtain ⟨finish, loop, is, same, -⟩ := gathers
  rw [same] at reached
  rw [same, same]
  exact is.patient below patience [] p reached

theorem complete (gathers : Gathers stage asks n x) (within : ∀ {r count}, asks r = some count → r < n ∧ r + count ≤ n)
    {bytes : List UInt8} (run : x patience p = (.ok bytes, q)) :
    (∃ i, Rounds stage asks i ([], p) (bytes, q)) ∧ bytes.length = n := by
  obtain ⟨finish, loop, is, same, finishes⟩ := gathers
  rw [same] at run
  obtain ⟨i, found, r, rounds, ⟨done, eq⟩ | ⟨_, _, _, -, -, eq⟩ | ⟨-, eq⟩⟩ :=
    is.outcome (fun asked => (within asked).1) patience [] p
  · rw [eq] at run
    rcases finishes found r done with ⟨ok, enough⟩ | ⟨_, _, failed, -⟩
    · rw [ok] at run
      cases run
      exact ⟨⟨i, rounds⟩, Nat.le_antisymm (rounds.length_le (fun asked => (within asked).2) (Nat.zero_le n)) enough⟩
    · rw [failed] at run
      cases run
  · rw [eq] at run
    cases run
  · rw [eq] at run
    cases run

end Gathers

def Reads (stage : Stage) (transfer : Transfer) (length : Reply) (p : Plugin σ) (bytes : List UInt8) (q : Plugin σ) :
    Prop :=
  match transfer with
  | .direct => ∃ address n, call stage "get_shared_bytes_ptr" [] p = (.ok (.int address), q) ∧ length = .int n ∧
      bytes = q.memory.slice address (address + n)
  | _ => ∃ i, Rounds stage (transfer.asks length) i ([], p) (bytes, q)

/-! ## Texts -/

theorem receive_ok {patience : Nat} {text : String} (run : receive stage transfer patience length p = (.ok text, q)) :
    ∃ bytes, receiveBytes stage transfer patience length p = (.ok bytes, q) ∧ Utf8.decode bytes = .ok text := by
  unfold receive at run
  rcases bind_cases (receiveBytes stage transfer patience length) _ p with ⟨bytes, r, first, eq⟩ | ⟨_, _, -, eq⟩ <;>
    rw [eq] at run
  · cases decoded : Utf8.decode bytes <;> rw [decoded] at run <;> cases run
    exact ⟨bytes, first, decoded⟩
  · cases run

theorem receive_of_bytes {patience : Nat} {bytes : List UInt8} {text : String}
    (received : receiveBytes stage transfer patience length p = (.ok bytes, q))
    (decoded : Utf8.decode bytes = .ok text) :
    receive stage transfer patience length p = (.ok text, q) := by
  rw [receive, bind_ok received, decoded]
  rfl

theorem receive_stalled_iff (patience : Nat) :
    (receive stage transfer patience length p).1 = .error .stalled ↔
      (receiveBytes stage transfer patience length p).1 = .error .stalled := by
  unfold receive
  rcases bind_cases (receiveBytes stage transfer patience length) _ p with ⟨bytes, r, first, eq⟩ | ⟨e, r, first, eq⟩
  · rw [eq, first]
    cases Utf8.decode bytes <;> exact iff_of_false nofun nofun
  · rw [eq, first]
    constructor <;> rintro ⟨⟩ <;> rfl

theorem receiveBytes_direct_unstalled (patience : Nat) :
    (receiveBytes stage .direct patience length p).1 ≠ .error .stalled := by
  intro failed
  rw [receiveBytes] at failed
  rcases bind_cases (call stage "get_shared_bytes_ptr" []) (fun pointer => read pointer length) p with
    ⟨pointer, r, -, eq⟩ | ⟨e, r, run, eq⟩ <;> rw [eq] at failed
  · obtain ⟨fault, same⟩ := read_error (q := (read pointer length r).2) (Prod.ext failed rfl)
    cases same
  · obtain ⟨fault, same⟩ := call_error (congrArg Prod.fst run)
    cases failed
    cases same

theorem receiveBytes_direct (announced : length.isNumber n = true) {patience : Nat} {bytes : List UInt8}
    (run : receiveBytes stage .direct patience length p = (.ok bytes, q)) :
    ∃ address, call stage "get_shared_bytes_ptr" [] p = (.ok (.int address), q) ∧ length = .int n ∧
      bytes = q.memory.slice address (address + n) := by
  rw [receiveBytes] at run
  rcases bind_cases (call stage "get_shared_bytes_ptr" []) (fun pointer => read pointer length) p with
    ⟨pointer, r, called, eq⟩ | ⟨e, r, -, eq⟩ <;> rw [eq] at run
  · obtain ⟨address, m, rfl, rfl, rfl, rfl⟩ := read_eq_ok run
    obtain rfl : m = n := by simpa [Reply.isNumber] using announced
    exact ⟨address, called, rfl, rfl⟩
  · cases run

/-- Receiving through a buffer gives the text of exactly as many bytes as were announced, all of them brought by rounds,
or it fails, or the rounds never end; how patient it is does not matter but for that. In place it always ends, but what
it gives is the text of fewer bytes if the memory does not reach far enough. -/
theorem received_in_full (announced : length.isNumber n = true) (stage : Stage) (transfer : Transfer) (p : Plugin σ) :
    (∀ patience text q, receive stage transfer patience length p = (.ok text, q) →
      ∃ bytes, Reads stage transfer length p bytes q ∧ Utf8.decode bytes = .ok text ∧ bytes.length ≤ n ∧
        (bytes.length < n ↔ transfer = .direct ∧ ∃ address,
          call stage "get_shared_bytes_ptr" [] p = (.ok (.int address), q) ∧ ¬q.memory.Spans address n)) ∧
    ((∀ patience, (receive stage transfer patience length p).1 = .error .stalled) ↔
      Endless stage (transfer.asks length) ([], p)) ∧
    ∀ patience, (receive stage transfer patience length p).1 ≠ .error .stalled →
      receive stage transfer (patience + 1) length p = receive stage transfer patience length p := by
  by_cases direct : transfer = .direct
  · subst direct
    refine ⟨fun patience text q run => ?_, ⟨fun stalled => ?_, fun endless => ?_⟩, fun patience _ => rfl⟩
    · obtain ⟨bytes, received, decoded⟩ := receive_ok run
      obtain ⟨address, called, rfl, rfl⟩ := receiveBytes_direct announced received
      refine ⟨_, ⟨address, n, called, rfl, rfl⟩, decoded, Memory.length_slice_le _ _ _, ?_⟩
      have fits := Memory.length_slice_le q.memory address n
      have spans := Memory.length_slice_eq_iff q.memory address n
      constructor
      · exact fun short => ⟨rfl, address, called, fun inside => short.ne (spans.mpr inside)⟩
      · rintro ⟨-, address', called', outside⟩
        rw [called] at called'
        cases called'
        exact lt_of_le_of_ne fits fun whole => outside (spans.mp whole)
    · exact absurd ((receive_stalled_iff 0).mp (stalled 0)) (receiveBytes_direct_unstalled 0)
    · exact absurd endless ((Rounds.none _).not_endless (not_round_of_done rfl))
  · have gathers := receiveBytes_gathers (σ := σ) announced direct stage
    refine ⟨fun patience text q run => ?_, ?_, fun patience reached => ?_⟩
    · obtain ⟨bytes, received, decoded⟩ := receive_ok run
      obtain ⟨rounds, whole⟩ := gathers.complete (asks_within announced) received
      refine ⟨bytes, ?_, decoded, whole.le, ⟨fun short => absurd whole short.ne, fun short => absurd short.1 direct⟩⟩
      cases transfer with
      | direct => exact absurd rfl direct
      | buffered size positive => exact rounds
      | fractional size => exact rounds
    · rw [← gathers.stalls_iff (fun asked => (asks_within announced asked).1) p]
      exact forall_congr' receive_stalled_iff
    · have same := gathers.patient (fun asked => (asks_within announced asked).1)
        (mt (receive_stalled_iff patience).mpr reached)
      unfold receive
      rw [bind_apply, bind_apply, same]

end Host

namespace Reference

def vague (announced address : Int) (transfer : Transfer) : Guest State :=
  { guest silent transfer with
    call := fun name args m s =>
      match name with
      | "get_license_text" => ⟨.returned (.int announced), m, s, []⟩
      | "get_shared_bytes_ptr" => ⟨.returned (.int address), m, s, []⟩
      | "get_wasm_memory_buffer" => ⟨.returned (.int address), m, s, []⟩
      | "set_buffer_with_shared_bytes" => ⟨.returned .nothing, m, s, []⟩
      | _ => (guest silent transfer).call name args m s }

def vagueEngine (announced address : Int) (transfer : Transfer) (text : String) : Engine State := fun _ =>
  some ⟨[], vague announced address transfer, some (holding (Utf8.bytes text), idle)⟩

end Reference

namespace Formatter

open Reference

theorem fetch_vague (announced address : Int) (transfer : Transfer) (stage : Stage) (offset count : Nat) (m : Memory)
    (s : State) (journal : List Log.Record) :
    Host.fetch stage offset count ⟨vague announced address transfer, m, s, journal⟩ =
      (.ok (m.slice address (address + count)), ⟨vague announced address transfer, m, s, journal ++ [] ++ []⟩) := by
  cases transfer <;> rfl

theorem vague_round (announced address : Int) (transfer : Transfer) (stage : Stage) (size length : Nat) (m : Memory)
    (s : State) (patience : Nat) (received : List UInt8) (count : Nat) (journal : List Log.Record)
    (asked : Host.wanted size length received.length = some count) (filled : m.slice address (address + count) ≠ []) :
    Host.receiveChunks stage size patience length received ⟨vague announced address transfer, m, s, journal⟩ =
      Host.receiveChunks stage size patience length (received ++ m.slice address (address + count))
        ⟨vague announced address transfer, m, s, journal ++ [] ++ []⟩ :=
  (Host.receiveChunks_loop stage size length).grows asked
    (fetch_vague announced address transfer stage _ count m s journal) filled

theorem vague_stalls (announced : Int) (transfer : Transfer) (stage : Stage) (size : Nat) {length : Nat}
    (positive : 0 < length) (m : Memory) (s : State) (journal : List Log.Record) (patience : Nat) :
    (Host.receiveChunks stage size patience length [] ⟨vague announced m.size transfer, m, s, journal⟩).1 =
      .error .stalled := by
  have loop := Host.receiveChunks_loop (σ := State) stage size length
  have asked : Host.wanted size length ([] : List UInt8).length = some (min (length - 0) size) := if_pos positive
  have nothing : ∀ count : Nat, m.slice m.size (m.size + count) = [] := by
    intro count
    rw [← List.length_eq_zero_iff, Memory.length_slice]
    unfold Memory.clamp
    split <;> split <;> omega
  have fetched := fetch_vague announced m.size transfer stage 0 (min (length - 0) size) m s
  simp only [nothing] at fetched
  induction patience generalizing journal with
  | zero => rw [loop.stalls asked (fetched journal)]
  | succ patience ih =>
      rw [loop.waits asked (fetched journal)]
      exact ih _

theorem vague_loads_direct (announced address : Int) (text : String) (patience : Nat) :
    ∃ journal, (load (vagueEngine announced address .direct text) patience moduleHeader).1 =
      .ok ⟨⟨vague announced address .direct, holding (Utf8.bytes text), idle, journal⟩, .direct, false, 0, patience⟩ :=
  ⟨_, rfl⟩

theorem vague_loads_buffered (announced address : Int) (patience : Nat) :
    ∃ journal, (load (vagueEngine announced address (.buffered 3 (by decide)) "abc") patience moduleHeader).1 =
      .ok ⟨⟨vague announced address (.buffered 3 (by decide)), holding (Utf8.bytes "abc"), idle, journal⟩,
        .buffered 3 (by decide), false, 0, patience⟩ :=
  ⟨_, rfl⟩

theorem announces_license (announced address : Int) (transfer : Transfer) (m : Memory) (s : State)
    (journal : List Log.Record) :
    Host.call .running "get_license_text" [] ⟨vague announced address transfer, m, s, journal⟩ =
      (.ok (.int announced), ⟨vague announced address transfer, m, s, journal ++ []⟩) := by
  cases transfer <;> rfl

theorem license_fst {f : Formatter σ} {length : Reply} {q : Plugin σ}
    (called : Host.call .running "get_license_text" [] f.plugin = (.ok length, q)) :
    (license f).1 = (Host.receive .running f.transfer f.patience length q).1 := by
  rw [license, receiveFrom, get_bind, host_apply, Host.receiveFrom, bind_ok called]

/-- A license that is cut short where the memory ends, and one that never comes, since the buffer is where the memory
ends. Both plugins have announced four bytes. -/
theorem license_short_or_endless :
    (∃ f, (load (vagueEngine 4 0 .direct "ab") 0 moduleHeader).1 = .ok f ∧
      (call .running "get_license_text" [] f).1 = .ok (.int 4) ∧ (license f).1 = .ok (Text.held "ab")) ∧
    ∀ patience, ∃ f, (load (vagueEngine 4 3 (.buffered 3 (by decide)) "abc") patience moduleHeader).1 = .ok f ∧
      (call .running "get_license_text" [] f).1 = .ok (.int 4) ∧ (license f).1 = .error .stalled := by
  refine ⟨?_, fun patience => ?_⟩
  · obtain ⟨journal, loaded⟩ := vague_loads_direct 4 0 "ab" 0
    refine ⟨_, loaded, rfl, ?_⟩
    have cut : (holding (Utf8.bytes "ab")).slice 0 (0 + 4) = Utf8.bytes "ab" := by decide
    have received : Host.receiveBytes .running .direct 0 (.int 4)
        ⟨vague 4 0 .direct, holding (Utf8.bytes "ab"), idle, journal ++ []⟩ =
          (.ok ((holding (Utf8.bytes "ab")).slice 0 (0 + 4)),
            ⟨vague 4 0 .direct, holding (Utf8.bytes "ab"), idle, journal ++ [] ++ []⟩) := rfl
    rw [cut] at received
    have text := Host.receive_of_bytes received (Utf8.decode_bytes "ab")
    exact (license_fst (announces_license 4 0 .direct _ _ _)).trans (congrArg Prod.fst text)
  · obtain ⟨journal, loaded⟩ := vague_loads_buffered 4 3 patience
    refine ⟨_, loaded, rfl, ?_⟩
    have stalled : (Host.receiveBytes .running (.buffered 3 (by decide)) patience (.int 4)
        ⟨vague 4 3 (.buffered 3 (by decide)), holding (Utf8.bytes "abc"), idle, journal ++ []⟩).1 = .error .stalled :=
      vague_stalls 4 _ .running 3 (by decide : 0 < 4) (holding (Utf8.bytes "abc")) idle _ patience
    exact (license_fst (announces_license 4 3 _ _ _ _)).trans ((Host.receive_stalled_iff patience).mpr stalled)

theorem license_received_in_rounds :
    ∃ f q bytes, (load (vagueEngine 5 1 (.buffered 3 (by decide)) "abc") 0 moduleHeader).1 = .ok f ∧
      (Reply.int 5).isNumber 5 = true ∧
      Host.receive .running f.transfer 0 (.int 5) f.plugin = (.ok (Text.held "bcbcb"), q) ∧
      Host.Reads .running f.transfer (.int 5) f.plugin bytes q ∧ bytes.length = 5 := by
  obtain ⟨journal, loaded⟩ := vague_loads_buffered 5 1 0
  have round := vague_round 5 1 (.buffered 3 (by decide)) .running 3 5 (holding (Utf8.bytes "abc")) idle 0
  have rounds := (round [] 3 journal rfl (by decide)).trans
    ((round _ 3 _ rfl (by decide)).trans (round _ 1 _ rfl (by decide)))
  have received : Host.receiveBytes .running (.buffered 3 (by decide)) 0 (.int 5) _ = _ :=
    rounds.trans ((Host.receiveChunks_loop .running 3 5).ends rfl)
  have brought : [] ++ (holding (Utf8.bytes "abc")).slice 1 (1 + 3) ++ (holding (Utf8.bytes "abc")).slice 1 (1 + 3) ++
      (holding (Utf8.bytes "abc")).slice 1 (1 + 1) = Utf8.bytes "bcbcb" := by decide
  have text := Host.receive_of_bytes received (brought ▸ Utf8.decode_bytes "bcbcb")
  obtain ⟨bytes, reads, -, le, short⟩ := (Host.received_in_full (n := 5) rfl .running _ _).1 0 _ _ text
  refine ⟨_, _, bytes, loaded, rfl, text, reads, le.antisymm (Nat.not_lt.mp fun less => ?_)⟩
  cases (short.mp less).1

end Formatter

end PluginKit
