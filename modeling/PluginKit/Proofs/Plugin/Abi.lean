import PluginKit.Proofs.Plugin.Activity
import PluginKit.Proofs.Plugin.Memory

/-!
What plugins agree to do when a host calls the functions that move bytes. A plugin may keep its shared
bytes wherever it likes, so they are seen through a `View`, together with all else that matters of its
memory and state. `Carries` says what calls do when they return; a call may also trap, and a place in
memory may turn out to be too small. `Ready` says that neither happens while there is room for what is sent.
-/

namespace PluginKit

variable {σ κ : Type}

/-- What there is to see in a plugin's memory and state: whether they are in order, the shared bytes, the
address of the transfer buffer where there is one, and whatever else the plugin keeps. No plugin has room
for everything; `room` tells the lengths that it takes. -/
structure View (σ κ : Type) where
  room : Nat → Prop
  sound : Memory → σ → Prop
  shared : Memory → σ → List UInt8
  buffer : Memory → σ → Int
  kept : Memory → σ → κ

def View.window (v : View σ κ) (size : Nat) (m : Memory) (s : σ) : List UInt8 :=
  m.slice (v.buffer m s) (v.buffer m s + size)

def View.Fits (v : View σ κ) (text : String) : Prop :=
  ∀ data, Utf8.encodeStrict text = .ok data → v.room data.length

def Guest.Returns (g : Guest σ) (name : String) (args : List Int) (m : Memory) (s : σ) (reply : Reply)
    (m' : Memory) (s' : σ) : Prop :=
  (g.call name args m s).outcome = .returned reply ∧ (g.call name args m s).memory = m' ∧
    (g.call name args m s).state = s'

def Guest.Completes (g : Guest σ) (name : String) (args : List Int) (m : Memory) (s : σ) : Prop :=
  ∃ reply, (g.call name args m s).outcome = .returned reply

def Transfer.calls : Transfer → List String
  | .direct => ["clear_shared_bytes", "get_shared_bytes_ptr"]
  | _ => ["clear_shared_bytes", "get_wasm_memory_buffer", "add_to_shared_bytes_from_buffer",
      "set_buffer_with_shared_bytes"]

namespace Abi

/-- Schema 3: the shared bytes grow by what lies in the buffer, and are laid out there piece by piece. What
a host writes into the buffer disturbs nothing else. -/
structure Buffered (g : Guest σ) (v : View σ κ) (size : Nat) : Prop where
  clear : ∀ {m s n reply m' s'}, v.sound m s →
    g.Returns "clear_shared_bytes" [n] m s reply m' s' → v.shared m' s' = []
  locate : ∀ {m s reply m' s'}, v.sound m s → g.Returns "get_wasm_memory_buffer" [] m s reply m' s' →
    reply = .int (v.buffer m' s') ∧ v.shared m' s' = v.shared m s ∧
      v.window size m' s' = v.window size m s
  append : ∀ {m s reply m' s'} {count : Nat}, v.sound m s → count ≤ size →
    g.Returns "add_to_shared_bytes_from_buffer" [(count : Int)] m s reply m' s' →
    0 ≤ v.buffer m s ∧ v.shared m' s' =
      v.shared m s ++ m.slice (v.buffer m s) (v.buffer m s + count)
  expose : ∀ {m s reply m' s'} {offset count : Nat}, v.sound m s → count ≤ size →
    offset + count ≤ (v.shared m s).length →
    g.Returns "set_buffer_with_shared_bytes" [(offset : Int), (count : Int)] m s reply m' s' →
    v.shared m' s' = v.shared m s ∧
      (v.window size m' s').take count = ((v.shared m s).drop offset).take count
  write : ∀ {m s m'} {data : List UInt8}, v.sound m s → data.length ≤ size →
    m.write? (v.buffer m s) data = some m' →
    v.sound m' s ∧ v.shared m' s = v.shared m s ∧ v.buffer m' s = v.buffer m s ∧
      v.kept m' s = v.kept m s

/-- Schema 4: the shared bytes lie in memory. Making room for some number of them tells where, and so many
bytes written there are the shared bytes. -/
structure Direct (g : Guest σ) (v : View σ κ) : Prop where
  clear : ∀ {m s reply m' s'} {count : Nat}, v.sound m s →
    g.Returns "clear_shared_bytes" [(count : Int)] m s reply m' s' →
    ∃ address : Int, reply = .int address ∧ (count = 0 → v.shared m' s' = []) ∧
      ∀ (data : List UInt8) (m'' : Memory), data.length = count → m'.write? address data = some m'' →
        v.sound m'' s' ∧ v.shared m'' s' = data ∧ v.kept m'' s' = v.kept m' s'
  locate : ∀ {m s reply m' s'}, v.sound m s → g.Returns "get_shared_bytes_ptr" [] m s reply m' s' →
    ∃ address : Int, reply = .int address ∧ v.shared m' s' = v.shared m s ∧
      m'.slice address (address + (v.shared m s).length) = v.shared m s

structure Carries (g : Guest σ) (v : View σ κ) (transfer : Transfer) : Prop where
  steady : ∀ {name args m s}, name ∈ transfer.calls → v.sound m s →
    v.sound (g.call name args m s).memory (g.call name args m s).state ∧
      v.kept (g.call name args m s).memory (g.call name args m s).state = v.kept m s
  moves : match transfer with
    | .buffered size _ => Buffered g v size
    | .direct => Direct g v
    | .fractional _ => False

def Placed (g : Guest σ) (v : View σ κ) (transfer : Transfer) : Prop :=
  match transfer with
  | .buffered size _ => ∀ m s, v.sound m s → 0 ≤ v.buffer m s ∧ v.buffer m s + size ≤ m.size
  | .direct => ∀ m s address m' s' (n : Nat), v.sound m s →
      g.Returns "clear_shared_bytes" [(n : Int)] m s (.int address) m' s' → 0 ≤ address ∧ address + n ≤ m'.size
  | .fractional _ => False

structure BufferedReady (g : Guest σ) (v : View σ κ) (size : Nat) : Prop where
  inside : ∀ {m s}, v.sound m s → 0 ≤ v.buffer m s ∧ v.buffer m s + size ≤ m.size
  clear : ∀ {m s n}, v.sound m s → v.room n → g.Completes "clear_shared_bytes" [(n : Int)] m s
  locate : ∀ {m s}, v.sound m s → g.Completes "get_wasm_memory_buffer" [] m s
  append : ∀ {m s} {count total : Nat}, v.sound m s → count ≤ size → v.room total →
    (v.shared m s).length + count ≤ total →
    g.Completes "add_to_shared_bytes_from_buffer" [(count : Int)] m s
  expose : ∀ {m s} {offset count : Nat}, v.sound m s → count ≤ size →
    offset + count ≤ (v.shared m s).length →
    g.Completes "set_buffer_with_shared_bytes" [(offset : Int), (count : Int)] m s

structure DirectReady (g : Guest σ) (v : View σ κ) : Prop where
  clear : ∀ {m s n}, v.sound m s → v.room n → g.Completes "clear_shared_bytes" [(n : Int)] m s
  inside : ∀ {m s address m' s'} {n : Nat}, v.sound m s →
    g.Returns "clear_shared_bytes" [(n : Int)] m s (.int address) m' s' →
    0 ≤ address ∧ address + n ≤ m'.size
  locate : ∀ {m s}, v.sound m s → g.Completes "get_shared_bytes_ptr" [] m s

structure Ready (g : Guest σ) (v : View σ κ) (transfer : Transfer) : Prop where
  exported : ∀ name ∈ transfer.calls, g.exports name = some .function
  serves : match transfer with
    | .buffered size _ => BufferedReady g v size
    | .direct => DirectReady g v
    | .fractional _ => False

theorem Carries.of_calls {g g' : Guest σ} {v : View σ κ} {transfer : Transfer} (carries : Carries g v transfer)
    (same : ∀ name ∈ transfer.calls, g'.call name = g.call name) : Carries g' v transfer := by
  have returns : ∀ {name args m s reply m' s'}, name ∈ transfer.calls →
      g'.Returns name args m s reply m' s' → g.Returns name args m s reply m' s' := by
    intro name args m s reply m' s' member returned
    rw [Guest.Returns, same name member] at returned
    exact returned
  refine ⟨fun {name args m s} member sound => ?_, ?_⟩
  · rw [same name member]
    exact carries.steady member sound
  · have moves := carries.moves
    cases transfer with
    | fractional x => exact moves
    | direct =>
        exact ⟨fun sound returned => moves.clear sound (returns (by simp [Transfer.calls]) returned),
          fun sound returned => moves.locate sound (returns (by simp [Transfer.calls]) returned)⟩
    | buffered size positive =>
        exact ⟨fun sound returned => moves.clear sound (returns (by simp [Transfer.calls]) returned),
          fun sound returned => moves.locate sound (returns (by simp [Transfer.calls]) returned),
          fun sound fits returned => moves.append sound fits (returns (by simp [Transfer.calls]) returned),
          fun sound fits inside returned =>
            moves.expose sound fits inside (returns (by simp [Transfer.calls]) returned),
          moves.write⟩

theorem Placed.of_calls {g g' : Guest σ} {v : View σ κ} {transfer : Transfer} (placed : Placed g v transfer)
    (same : ∀ name ∈ transfer.calls, g'.call name = g.call name) : Placed g' v transfer := by
  cases transfer with
  | fractional x => exact placed
  | buffered size positive => exact placed
  | direct =>
      intro m s address m' s' n sound returned
      rw [Guest.Returns, same _ (by simp [Transfer.calls])] at returned
      exact placed m s address m' s' n sound returned

theorem Ready.placed {g : Guest σ} {v : View σ κ} {transfer : Transfer} (ready : Ready g v transfer) :
    Placed g v transfer := by
  have serves := ready.serves
  cases transfer with
  | buffered size positive => exact fun _ _ => serves.inside
  | direct => exact fun _ _ _ _ _ _ => serves.inside
  | fractional x => exact serves

end Abi

/-- The calls of transfers as hosts make them, by the lengths of what they send and the bytes that are shared. -/
def Transfer.Apt (transfer : Transfer) (lengths : List Nat) (shared : List UInt8) (name : String)
    (args : List Int) : Prop :=
  match transfer with
  | .buffered size _ => (name = "clear_shared_bytes" ∧ ∃ n ∈ lengths, args = [(n : Int)]) ∨
      (name = "get_wasm_memory_buffer" ∧ args = []) ∨
      (name = "add_to_shared_bytes_from_buffer" ∧ ∃ count : Nat, count ≤ size ∧
        (∃ n ∈ lengths, shared.length + count ≤ n) ∧ args = [(count : Int)]) ∨
      (name = "set_buffer_with_shared_bytes" ∧ ∃ offset count : Nat, count ≤ size ∧
        offset + count ≤ shared.length ∧ args = [(offset : Int), (count : Int)])
  | .direct => (name = "clear_shared_bytes" ∧ ∃ n ∈ lengths, args = [(n : Int)]) ∨
      (name = "get_shared_bytes_ptr" ∧ args = [])
  | .fractional _ => False

theorem Abi.Ready.completes {g : Guest σ} {v : View σ κ} {transfer : Transfer} {lengths : List Nat} {name : String}
    {args : List Int} {m : Memory} {s : σ} (ready : Abi.Ready g v transfer) (room : ∀ n ∈ lengths, v.room n)
    (sound : v.sound m s) (apt : transfer.Apt lengths (v.shared m s) name args) :
    g.exports name = some .function ∧ g.Completes name args m s := by
  have serves := ready.serves
  have exported := ready.exported
  cases transfer with
  | fractional x => exact apt.elim
  | direct =>
      rcases apt with ⟨rfl, n, member, rfl⟩ | ⟨rfl, rfl⟩
      · exact ⟨exported _ (by simp [Transfer.calls]), serves.clear sound (room n member)⟩
      · exact ⟨exported _ (by simp [Transfer.calls]), serves.locate sound⟩
  | buffered size positive =>
      rcases apt with ⟨rfl, n, member, rfl⟩ | ⟨rfl, rfl⟩ | ⟨rfl, count, fits, ⟨n, member, bound⟩, rfl⟩ |
        ⟨rfl, offset, count, fits, inside, rfl⟩
      · exact ⟨exported _ (by simp [Transfer.calls]), serves.clear sound (room n member)⟩
      · exact ⟨exported _ (by simp [Transfer.calls]), serves.locate sound⟩
      · exact ⟨exported _ (by simp [Transfer.calls]), serves.append sound fits (room n member) bound⟩
      · exact ⟨exported _ (by simp [Transfer.calls]), serves.expose sound fits inside⟩

end PluginKit
