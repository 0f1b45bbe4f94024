import PluginKit.Proofs.Plugin.Observed
import PluginKit.Proofs.Plugin.Reference

/-!
Texts survive the way into a plugin and back, whatever the size of the buffer and wherever its end cuts a
character. A transfer through a buffer takes as many rounds as the buffer has to be filled, and the host
touches no byte outside it.
-/

namespace PluginKit

variable {σ κ : Type}

structure Visit (σ : Type) where
  name : String
  args : List Int
  memory : Memory
  state : σ
  result : CallResult σ

namespace Visit

def note : Observer σ (Visit σ) := fun name args memory state result => [⟨name, args, memory, state, result⟩]

def IsAppend (visit : Visit σ) : Prop := visit.name = "add_to_shared_bytes_from_buffer"

instance : DecidablePred (IsAppend (σ := σ)) := fun visit => inferInstanceAs (Decidable (visit.name = _))

/-- From a memory and state through calls to a last memory, a host has changed nothing but the buffer:
neither before a call, nor between two calls, nor after the last. -/
def Confined (v : View σ κ) (size : Nat) : Memory → σ → List (Visit σ) → Memory → Prop
  | m, s, [], last => Memory.SameOutside (v.buffer m s) size m last
  | m, s, visit :: rest, last => Memory.SameOutside (v.buffer m s) size m visit.memory ∧
    Confined v size visit.result.memory visit.result.state rest last

end Visit

namespace Host

open Activity Abi Visit

variable {p q : Plugin σ} {v : View σ κ} {stage : Stage} {name : String} {args : List Int} {reply : Reply}
  {size total : Nat}

theorem sameOutside_refl (address : Int) (count : Nat) (m : Memory) : m.SameOutside address count m :=
  ⟨rfl, fun _ _ => rfl⟩

theorem call_noted (notes : List (Visit σ)) (run : call stage name args p = (.ok reply, q)) :
    ∃ visit : Visit σ, visit.name = name ∧ visit.args = args ∧ visit.memory = p.memory ∧
      visit.result.memory = q.memory ∧ visit.result.state = q.state ∧
      call stage name args (p.observed note notes) = (.ok reply, q.observed note (notes ++ [visit])) := by
  let visit : Visit σ := ⟨name, args, p.memory, p.state, p.guest.call name args p.memory p.state⟩
  have noted : p.noted note name args = [visit] := by
    rcases call_cases stage name args p with ⟨-, eq⟩ | ⟨exported, -⟩
    · rw [eq] at run
      cases run
    · rw [Plugin.noted, if_neg (not_not.mpr exported)]
      rfl
  obtain ⟨-, -, memory, state⟩ := call_returns run
  refine ⟨visit, rfl, rfl, rfl, memory, state, ?_⟩
  rw [call_observed, run, noted]

theorem sendChunk_visits {positive : 0 < size} (notes : List (Visit σ))
    (carries : Carries p.guest v (.buffered size positive))
    (ready : Ready p.guest v (.buffered size positive)) (sound : v.sound p.memory p.state) (stage : Stage)
    {chunk : List UInt8} (filled : chunk ≠ []) (fits : chunk.length ≤ size) (room : v.room total)
    (bound : (v.shared p.memory p.state).length + chunk.length ≤ total) :
    ∃ q locate append, sendChunk stage chunk p = (.ok (), q) ∧
      sendChunk stage chunk (p.observed note notes) = (.ok (), q.observed note (notes ++ [locate, append])) ∧
      ¬ IsAppend locate ∧ IsAppend append ∧ append.args = [(chunk.length : Int)] ∧
      ∀ rest last, Confined v size q.memory q.state rest last →
        Confined v size p.memory p.state (locate :: append :: rest) last := by
  obtain ⟨p₁, memory, reply, q, run, nonnegative, written, taken⟩ :=
    sendChunk_steps carries ready sound stage filled fits room bound
  obtain ⟨locate, name, -, before, after, state, noted⟩ := call_noted notes run
  obtain ⟨append, name', args', before', after', state', noted'⟩ :=
    call_noted (notes ++ [locate]) taken
  have wrote : write (.int (v.buffer p₁.memory p₁.state)) chunk p₁ = (.ok (), { p₁ with memory := memory }) := by
    rw [write_int, written]
  refine ⟨q, locate, append, ?_, ?_, ?_, name', args', ?_⟩
  · rw [sendChunk, bind_ok run, bind_ok wrote, bind_ok taken]
    rfl
  · have wrote' : write (.int (v.buffer p₁.memory p₁.state)) chunk (p₁.observed note (notes ++ [locate])) =
        (.ok (), Plugin.observed { p₁ with memory := memory } note (notes ++ [locate])) := by
      rw [write_observed, wrote]
    rw [sendChunk, bind_ok noted, bind_ok wrote', bind_ok noted', List.append_assoc]
    rfl
  · rw [IsAppend, name]
    decide
  · intro rest last confined
    refine ⟨?_, ?_, ?_⟩
    · rw [before]
      exact sameOutside_refl _ _ _
    · -- The only write of the round lies between its two calls.
      rw [after, state, before']
      exact Memory.sameOutside_write? nonnegative fits written
    · rwa [after', state']

def rounds (size count : Nat) : Nat := (count + size - 1) / size

theorem rounds_zero (positive : 0 < size) : rounds size 0 = 0 := by
  rw [rounds, Nat.zero_add]
  exact Nat.div_eq_of_lt (by omega)

theorem rounds_sub {count : Nat} (positive : 0 < size) (filled : 0 < count) :
    rounds size count = rounds size (count - size) + 1 := by
  unfold rounds
  rcases Nat.le_total size count with le | le
  · rw [show count + size - 1 = (count - size + size - 1) + size by omega, Nat.add_div_right _ positive]
  · have last : count - size = 0 := by omega
    rw [last, Nat.zero_add, Nat.div_eq_of_lt (show size - 1 < size by omega)]
    exact Nat.div_eq_of_lt_le (by omega) (by omega)

theorem sendChunks_visits {positive : 0 < size} (notes : List (Visit σ))
    (carries : Carries p.guest v (.buffered size positive))
    (ready : Ready p.guest v (.buffered size positive)) (sound : v.sound p.memory p.state) (stage : Stage)
    (data : List UInt8) (room : v.room total) (bound : (v.shared p.memory p.state).length + data.length ≤ total) :
    ∃ q visits, sendChunks stage size positive data p = (.ok (), q) ∧
      sendChunks stage size positive data (p.observed note notes) =
        (.ok (), q.observed note (notes ++ visits)) ∧
      visits.countP (IsAppend ·) = rounds size data.length ∧
      (∀ visit ∈ visits, IsAppend visit → ∃ count : Nat, visit.args = [(count : Int)] ∧ 1 ≤ count ∧ count ≤ size) ∧
      Confined v size p.memory p.state visits q.memory := by
  induction data using sendChunks.induct size positive generalizing p notes with
  | case1 =>
      rw [sendChunks_nil, sendChunks_nil]
      refine ⟨p, [], rfl, by rw [List.append_nil]; rfl, (rounds_zero positive).symm, ?_, sameOutside_refl _ _ _⟩
      intro visit member
      cases member
  | case2 data filled ih =>
      have fits : (data.take size).length ≤ size := List.length_take_le _ _
      have taken := List.length_pos_iff.mpr (take_ne_nil positive filled)
      have first : (v.shared p.memory p.state).length + (data.take size).length ≤ total := by
        rw [List.length_take]
        omega
      obtain ⟨p₁, locate, append, run, observed, notAppend, isAppend, args, confined⟩ :=
        sendChunk_visits notes carries ready sound stage (take_ne_nil positive filled) fits room first
      obtain ⟨q₁, stays, ⟨e, failed, -⟩ | ⟨ok, shared⟩⟩ :=
        sendChunk_cases carries sound stage (take_ne_nil positive filled) fits first
      · rw [run] at failed
        cases failed
      rw [run] at ok
      cases ok
      rw [← stays.guest] at carries ready
      obtain ⟨q, visits, rest, observed', count, bounds, inside⟩ :=
        ih (notes ++ [locate, append]) carries ready stays.sound (by
          rw [shared, List.length_append, List.length_take, List.length_drop]
          omega)
      refine ⟨q, locate :: append :: visits, ?_, ?_, ?_, ?_, confined _ _ inside⟩
      · rw [sendChunks_cons positive filled, bind_ok run, rest]
      · rw [sendChunks_cons positive filled, bind_ok observed, observed', List.append_assoc]
        rfl
      · rw [List.countP_cons_of_neg (by simpa using notAppend), List.countP_cons_of_pos (by simpa using isAppend),
          count, List.length_drop, rounds_sub positive (List.length_pos_iff.mpr filled)]
      · intro visit member named
        rcases List.mem_cons.mp member with rfl | member
        · exact absurd named notAppend
        rcases List.mem_cons.mp member with rfl | member
        · exact ⟨_, args, taken, fits⟩
        · exact bounds visit member named

theorem send_visits {positive : 0 < size} (carries : Carries p.guest v (.buffered size positive))
    (ready : Ready p.guest v (.buffered size positive)) (sound : v.sound p.memory p.state) (stage : Stage)
    (text : String) (room : v.room (Utf8.bytes text).length) :
    ∃ q visits, send stage (.buffered size positive) (Text.held text) p = (.ok (), q) ∧
      send stage (.buffered size positive) (Text.held text) (p.observed note []) =
        (.ok (), q.observed note visits) ∧
      visits.countP (IsAppend ·) = rounds size (Utf8.bytes text).length ∧
      (∀ visit ∈ visits, IsAppend visit → ∃ count : Nat, visit.args = [(count : Int)] ∧ 1 ≤ count ∧ count ≤ size) ∧
      Confined v size p.memory p.state visits q.memory := by
  have serves : BufferedReady p.guest v size := ready.serves
  obtain ⟨_, p₁, run, stays, returned⟩ := call_ok carries sound stage (by simp [Transfer.calls])
    (ready.exported "clear_shared_bytes" (by simp [Transfer.calls])) (serves.clear sound room)
  have empty : v.shared p₁.memory p₁.state = [] := Buffered.clear carries.moves sound returned
  obtain ⟨clear, name, -, before, after, state, noted⟩ := call_noted [] run
  have notAppend : ¬ IsAppend clear := by
    rw [IsAppend, name]
    decide
  rw [← stays.guest] at carries ready
  obtain ⟨q, visits, rest, observed, count, bounds, confined⟩ :=
    sendChunks_visits [clear] carries ready stays.sound stage (Utf8.bytes text) room
      (by rw [empty, List.length_nil, Nat.zero_add])
  refine ⟨q, clear :: visits, ?_, ?_, ?_, ?_, ?_, ?_⟩
  · rw [send, Utf8.encodeStrict_held]
    exact (bind_ok run).trans rest
  · rw [send, Utf8.encodeStrict_held]
    exact (bind_ok noted).trans observed
  · rw [List.countP_cons_of_neg (by simpa using notAppend), count]
  · intro visit member named
    rcases List.mem_cons.mp member with rfl | member
    · exact absurd named notAppend
    · exact bounds visit member named
  · rw [before]
    exact sameOutside_refl _ _ _
  · rwa [after, state]

/-- Sending makes the shared bytes those of the text, whatever they were, as long as there is room for it; receiving
as many bytes as are shared decodes all of them, whatever they are; so what was sent is received. Through a buffer,
sending takes over between one byte and a full buffer at a time, in as few rounds as that allows, and writes nowhere
else. -/
theorem text_survives_transfer {transfer : Transfer} (carries : Carries p.guest v transfer)
    (ready : Ready p.guest v transfer) (sound : v.sound p.memory p.state) (stage : Stage) (patience : Nat)
    (text : String) :
    (receive stage transfer patience (.int (v.shared p.memory p.state).length) p).1 =
      (Utf8.decode (v.shared p.memory p.state)).mapError .badText ∧
    (v.room (Utf8.bytes text).length → ∃ q, send stage transfer (Text.held text) p = (.ok (), q) ∧
      v.shared q.memory q.state = Utf8.bytes text ∧
      (receive stage transfer patience (.int (Utf8.bytes text).length) q).1 = .ok (Text.held text) ∧
      ∀ size positive, transfer = .buffered size positive → ∃ visits,
        send stage transfer (Text.held text) (p.observed note []) = (.ok (), q.observed note visits) ∧
        visits.countP (IsAppend ·) = rounds size (Utf8.bytes text).length ∧
        (∀ visit ∈ visits, IsAppend visit →
          ∃ count : Nat, visit.args = [(count : Int)] ∧ 1 ≤ count ∧ count ≤ size) ∧
        Confined v size p.memory p.state visits q.memory) := by
  refine ⟨?_, fun room => ?_⟩
  · obtain ⟨q, run, -, -⟩ := receive_shared carries ready sound stage patience
    rw [run]
  obtain ⟨q, sent, stays, shared⟩ := send_ok carries ready sound stage (View.fits_held.mpr room)
    (Utf8.encodeStrict_held text)
  refine ⟨q, sent, shared, ?_, ?_⟩
  · rw [← stays.guest] at carries ready
    obtain ⟨r, received, -⟩ := receive_text carries ready stays.sound stage patience shared
    rw [received]
  · rintro size positive rfl
    obtain ⟨q', visits, run, observed⟩ := send_visits carries ready sound stage text room
    rw [sent] at run
    cases run
    exact ⟨visits, observed⟩

theorem euro_survives_two_bytes :
    let transfer : Transfer := .buffered 2 (by decide)
    let p : Plugin Reference.State :=
      ⟨Reference.guest Reference.echoRule transfer, Reference.start transfer, ⟨[0xff], .empty, []⟩, []⟩
    ∃ q visits, send .running transfer (Text.held "€") p = (.ok (), q) ∧
      q.state.shared = [0xe2, 0x82, 0xac] ∧
      (receive .running transfer 0 (.int 3) q).1 = .ok (Text.held "€") ∧
      send .running transfer (Text.held "€") (p.observed note []) = (.ok (), q.observed note visits) ∧
      visits.countP (IsAppend ·) = 2 ∧
      Confined (Reference.view transfer) 2 p.memory p.state visits q.memory := by
  intro transfer p
  have bytes : Utf8.bytes "€" = [0xe2, 0x82, 0xac] := by decide
  obtain ⟨-, survives⟩ := text_survives_transfer (p := p)
    (Reference.carries trivial) (Reference.ready trivial) (Reference.sound_start transfer _) .running 0 "€"
  obtain ⟨q, sent, shared, received, rest⟩ := survives trivial
  obtain ⟨visits, observed, count, -, confined⟩ := rest 2 (by decide) rfl
  rw [bytes] at shared received count
  exact ⟨q, visits, sent, shared, received, observed, count, confined⟩

end Host

end PluginKit
