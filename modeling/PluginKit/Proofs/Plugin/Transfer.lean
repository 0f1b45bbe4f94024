import PluginKit.Proofs.Plugin.Abi
import PluginKit.Proofs.Text.Utf8

/-!
Moving bytes in and out of plugins whose transfers do what their schema says. If a text has been sent,
the shared bytes are its encoding; receiving as many bytes as are shared gives all of them. Nothing else
that the plugin keeps is touched, also when a transfer breaks off.
-/

namespace PluginKit

variable {σ κ : Type}

theorem View.fits_held {v : View σ κ} {text : String} :
    v.Fits (Text.held text) ↔ v.room (Utf8.bytes text).length := by
  simp only [View.Fits, Utf8.encodeStrict_held, Except.ok.injEq, forall_eq']

structure Plugin.Stays (v : View σ κ) (p q : Plugin σ) : Prop where
  guest : q.guest = p.guest
  sound : v.sound q.memory q.state
  kept : v.kept q.memory q.state = v.kept p.memory p.state

theorem Plugin.Stays.trans {v : View σ κ} {p q r : Plugin σ} (first : p.Stays v q) (second : q.Stays v r) :
    p.Stays v r :=
  ⟨second.guest.trans first.guest, second.sound, second.kept.trans first.kept⟩

namespace PluginError

def IsCall (stage : Stage) (e : PluginError) : Prop := ∃ fault, e = .call stage fault

def isUnwritten : PluginError → Bool
  | .outOfMemory => true
  | .mismatch .slice => true
  | _ => false

def isUnread : PluginError → Bool
  | .mismatch _ => true
  | .stalled => true
  | .badText _ => true
  | _ => false

end PluginError

namespace Host

open Activity Abi

variable {p q : Plugin σ} {v : View σ κ} {stage : Stage} {name : String} {args : List Int} {reply : Reply}
  {transfer : Transfer} {size total : Nat} {lengths : List Nat}

/-! ## Calls -/

theorem call_cases (stage : Stage) (name : String) (args : List Int) (p : Plugin σ) :
    (p.guest.exports name ≠ some .function ∧
      call stage name args p = (.error (.call stage (.notFunction name)), p)) ∨
    (p.guest.exports name = some .function ∧ ∃ q : Plugin σ, q.guest = p.guest ∧
      q.memory = (p.guest.call name args p.memory p.state).memory ∧
      q.state = (p.guest.call name args p.memory p.state).state ∧
      ((∃ reply, (p.guest.call name args p.memory p.state).outcome = .returned reply ∧
        call stage name args p = (.ok reply, q)) ∨
      ((p.guest.call name args p.memory p.state).outcome = .trapped ∧
        call stage name args p = (.error (.call stage (.trapped name)), q)))) := by
  by_cases missing : p.guest.exports name ≠ some .function
  · exact .inl ⟨missing, by simp only [call, Plugin.call, if_pos missing]⟩
  · refine .inr ⟨not_not.mp missing, (call stage name args p).2, ?_⟩
    cases outcome : (p.guest.call name args p.memory p.state).outcome <;>
      simp only [call, Plugin.call, if_neg missing, outcome]
    · exact ⟨trivial, trivial, trivial, .inl ⟨_, rfl, rfl⟩⟩
    · exact ⟨rfl, rfl, rfl, .inr ⟨trivial, trivial⟩⟩

theorem call_returns (run : call stage name args p = (.ok reply, q)) :
    q.guest = p.guest ∧ p.guest.Returns name args p.memory p.state reply q.memory q.state := by
  rcases call_cases stage name args p with ⟨-, eq⟩ | ⟨-, r, guest, memory, state, ⟨answer, outcome, eq⟩ | ⟨-, eq⟩⟩
  · rw [eq] at run
    cases run
  · rw [eq] at run
    cases run
    exact ⟨guest, outcome, memory.symm, state.symm⟩
  · rw [eq] at run
    cases run

theorem call_completes (stage : Stage) (exported : p.guest.exports name = some .function)
    (completes : p.guest.Completes name args p.memory p.state) :
    ∃ reply q, call stage name args p = (.ok reply, q) := by
  obtain ⟨reply, outcome⟩ := completes
  rcases call_cases stage name args p with ⟨missing, -⟩ | ⟨-, q, -, -, -, ⟨answer, -, eq⟩ | ⟨trapped, -⟩⟩
  · exact absurd exported missing
  · exact ⟨answer, q, eq⟩
  · rw [outcome] at trapped
    cases trapped

theorem call_stays {result : Except PluginError Reply} (carries : Carries p.guest v transfer)
    (sound : v.sound p.memory p.state) (member : name ∈ transfer.calls)
    (run : call stage name args p = (result, q)) : p.Stays v q := by
  rcases call_cases stage name args p with ⟨-, eq⟩ | ⟨-, r, guest, memory, state, rest⟩
  · rw [eq] at run
    cases run
    exact ⟨rfl, sound, rfl⟩
  · have same : r = q := by
      rcases rest with ⟨_, -, eq⟩ | ⟨-, eq⟩ <;> rw [eq] at run <;> cases run <;> rfl
    have ⟨after, kept⟩ := @carries.steady name args p.memory p.state member sound
    rw [← memory, ← state, same] at after kept
    exact ⟨same ▸ guest, after, kept⟩

theorem call_ok (carries : Carries p.guest v transfer) (sound : v.sound p.memory p.state) (stage : Stage)
    (member : name ∈ transfer.calls) (exported : p.guest.exports name = some .function)
    (completes : p.guest.Completes name args p.memory p.state) :
    ∃ reply q, call stage name args p = (.ok reply, q) ∧ p.Stays v q ∧
      p.guest.Returns name args p.memory p.state reply q.memory q.state := by
  obtain ⟨reply, q, run⟩ := call_completes stage exported completes
  exact ⟨reply, q, run, call_stays carries sound member run, (call_returns run).2⟩

def Broken (v : View σ κ) (transfer : Transfer) (lengths : List Nat) (stage : Stage) (p : Plugin σ)
    (e : PluginError) : Prop :=
  ∃ (q : Plugin σ) (name : String) (args : List Int), q.guest = p.guest ∧ v.sound q.memory q.state ∧
    transfer.Apt lengths (v.shared q.memory q.state) name args ∧ (call stage name args q).1 = .error e

theorem Broken.of_call {e : PluginError} (sound : v.sound p.memory p.state)
    (apt : transfer.Apt lengths (v.shared p.memory p.state) name args) (run : call stage name args p = (.error e, q)) :
    Broken v transfer lengths stage p e :=
  ⟨p, name, args, rfl, sound, apt, by rw [run]⟩

theorem Broken.later {e : PluginError} (stays : p.Stays v q) (broken : Broken v transfer lengths stage q e) :
    Broken v transfer lengths stage p e := by
  obtain ⟨r, name, args, guest, rest⟩ := broken
  exact ⟨r, name, args, guest.trans stays.guest, rest⟩

theorem call_error {e : PluginError} (failed : (call stage name args p).1 = .error e) : e.IsCall stage := by
  rcases call_cases stage name args p with ⟨-, eq⟩ | ⟨-, q, -, -, -, ⟨reply, -, eq⟩ | ⟨-, eq⟩⟩ <;> rw [eq] at failed <;>
    cases failed
  · exact ⟨_, rfl⟩
  · exact ⟨_, rfl⟩

theorem Broken.isCall {e : PluginError} (broken : Broken v transfer lengths stage p e) : e.IsCall stage := by
  obtain ⟨q, name, args, -, -, -, failed⟩ := broken
  exact call_error failed

theorem not_broken {e : PluginError} (ready : Ready p.guest v transfer) (room : ∀ n ∈ lengths, v.room n) :
    ¬Broken v transfer lengths stage p e := by
  rintro ⟨q, name, args, guest, sound, apt, failed⟩
  rw [← guest] at ready
  obtain ⟨exported, completes⟩ := ready.completes room sound apt
  obtain ⟨reply, r, run⟩ := call_completes stage exported completes
  rw [run] at failed
  cases failed

/-! ## Sending -/

theorem write_int (address : Int) (data : List UInt8) (p : Plugin σ) :
    write (.int address) data p = match p.memory.write? address data with
      | some memory => (.ok (), { p with memory := memory })
      | none => (.error .outOfMemory, p) := rfl

def sendChunk (stage : Stage) (chunk : List UInt8) : Host σ Unit := do
  let pointer ← call stage "get_wasm_memory_buffer" []
  write pointer chunk
  let _ ← call stage "add_to_shared_bytes_from_buffer" [(chunk.length : Int)]

theorem sendChunks_nil (positive : 0 < size) :
    sendChunks stage size positive [] = (pure () : Host σ Unit) := by
  rw [sendChunks, dif_pos rfl]

theorem sendChunks_cons (positive : 0 < size) {data : List UInt8} (filled : data ≠ []) :
    sendChunks (σ := σ) stage size positive data =
      sendChunk stage (data.take size) >>= fun _ => sendChunks stage size positive (data.drop size) := by
  rw [sendChunks, dif_neg filled]
  simp [sendChunk]

theorem take_ne_nil (positive : 0 < size) {data : List UInt8} (filled : data ≠ []) : data.take size ≠ [] := by
  rw [Ne, List.take_eq_nil_iff, not_or]
  exact ⟨positive.ne', filled⟩

theorem sendChunk_cases {positive : 0 < size} (carries : Carries p.guest v (.buffered size positive))
    (sound : v.sound p.memory p.state) (stage : Stage) {chunk : List UInt8} (filled : chunk ≠ [])
    (fits : chunk.length ≤ size) (bound : (v.shared p.memory p.state).length + chunk.length ≤ total) :
    ∃ q, p.Stays v q ∧ ((∃ e, sendChunk stage chunk p = (.error e, q) ∧
        (Placed p.guest v (.buffered size positive) → Broken v (.buffered size positive) [total] stage p e)) ∨
      sendChunk stage chunk p = (.ok (), q) ∧
        v.shared q.memory q.state = v.shared p.memory p.state ++ chunk) := by
  have abi : Buffered p.guest v size := carries.moves
  unfold sendChunk
  rcases bind_cases (call stage "get_wasm_memory_buffer" []) _ p with
    ⟨pointer, p₁, run, eq⟩ | ⟨e, p₁, run, eq⟩ <;> rw [eq] <;>
    have located := call_stays carries sound (by simp [Transfer.calls]) run
  · obtain ⟨guest, returned⟩ := call_returns run
    obtain ⟨rfl, shared, -⟩ := abi.locate sound returned
    rw [← guest] at abi carries
    cases written : p₁.memory.write? (v.buffer p₁.memory p₁.state) chunk with
    | none =>
        rw [bind_error (by rw [write_int, written])]
        refine ⟨p₁, located, .inl ⟨_, rfl, fun placed => ?_⟩⟩
        obtain ⟨nonnegative, inside⟩ := placed _ _ located.sound
        obtain ⟨memory, found⟩ := Memory.write?_isSome filled nonnegative (m := p₁.memory) (by omega)
        rw [written] at found
        cases found
    | some memory =>
        -- The write may move neither the shared bytes nor the buffer, or the plugin would take over other bytes.
        obtain ⟨after, same, place, kept⟩ := abi.write located.sound fits written
        rw [bind_ok (by rw [write_int, written])]
        have stays : p.Stays v { p₁ with memory := memory } := located.trans ⟨rfl, after, kept⟩
        rcases bind_cases (call stage "add_to_shared_bytes_from_buffer" [(chunk.length : Int)])
          (fun _ => pure ()) { p₁ with memory := memory } with
          ⟨_, p₂, run, eq⟩ | ⟨e, p₂, run, eq⟩ <;> rw [eq] <;>
          have taken := call_stays (p := { p₁ with memory := memory }) carries after
            (by simp [Transfer.calls]) run
        · obtain ⟨nonnegative, grown⟩ := abi.append after fits (call_returns run).2
          refine ⟨p₂, stays.trans taken, .inr ⟨rfl, ?_⟩⟩
          rw [grown, same, shared, place]
          rw [place] at nonnegative
          rw [Memory.slice_write? nonnegative written]
        · refine ⟨p₂, stays.trans taken, .inl ⟨e, rfl, fun _ => .later stays (.of_call after ?_ run)⟩⟩
          rw [← shared, ← same] at bound
          exact .inr (.inr (.inl ⟨rfl, _, fits, ⟨total, List.mem_singleton_self _, bound⟩, rfl⟩))
  · exact ⟨p₁, located, .inl ⟨e, rfl, fun _ => .of_call sound (.inr (.inl ⟨rfl, rfl⟩)) run⟩⟩

theorem sendChunk_steps {positive : 0 < size} (carries : Carries p.guest v (.buffered size positive))
    (ready : Ready p.guest v (.buffered size positive)) (sound : v.sound p.memory p.state) (stage : Stage)
    {chunk : List UInt8} (filled : chunk ≠ []) (fits : chunk.length ≤ size) (room : v.room total)
    (bound : (v.shared p.memory p.state).length + chunk.length ≤ total) :
    ∃ p₁ memory reply q,
      call stage "get_wasm_memory_buffer" [] p = (.ok (.int (v.buffer p₁.memory p₁.state)), p₁) ∧
      0 ≤ v.buffer p₁.memory p₁.state ∧
      p₁.memory.write? (v.buffer p₁.memory p₁.state) chunk = some memory ∧
      call stage "add_to_shared_bytes_from_buffer" [(chunk.length : Int)] { p₁ with memory := memory } =
        (.ok reply, q) := by
  have abi : Buffered p.guest v size := carries.moves
  have serves : BufferedReady p.guest v size := ready.serves
  have exported := ready.exported
  obtain ⟨_, p₁, run, located, returned⟩ := call_ok carries sound stage (by simp [Transfer.calls])
    (exported "get_wasm_memory_buffer" (by simp [Transfer.calls])) (serves.locate sound)
  obtain ⟨rfl, shared, -⟩ := abi.locate sound returned
  rw [← located.guest] at abi serves exported
  obtain ⟨nonnegative, inside⟩ := serves.inside located.sound
  obtain ⟨memory, written⟩ := Memory.write?_isSome filled nonnegative (m := p₁.memory) (by omega)
  obtain ⟨after, same, -⟩ := abi.write located.sound fits written
  rw [← shared, ← same] at bound
  obtain ⟨reply, q, taken⟩ := call_completes stage (p := { p₁ with memory := memory })
    (exported "add_to_shared_bytes_from_buffer" (by simp [Transfer.calls])) (serves.append after fits room bound)
  exact ⟨p₁, memory, reply, q, run, nonnegative, written, taken⟩

theorem sendChunks_cases {positive : 0 < size} (carries : Carries p.guest v (.buffered size positive))
    (sound : v.sound p.memory p.state) (stage : Stage) (data : List UInt8)
    (bound : (v.shared p.memory p.state).length + data.length ≤ total) :
    ∃ q, p.Stays v q ∧ ((∃ e, sendChunks stage size positive data p = (.error e, q) ∧
        (Placed p.guest v (.buffered size positive) → Broken v (.buffered size positive) [total] stage p e)) ∨
      sendChunks stage size positive data p = (.ok (), q) ∧
        v.shared q.memory q.state = v.shared p.memory p.state ++ data) := by
  induction data using sendChunks.induct size positive generalizing p with
  | case1 =>
      rw [sendChunks_nil]
      exact ⟨p, ⟨rfl, sound, rfl⟩, .inr ⟨rfl, (List.append_nil _).symm⟩⟩
  | case2 data filled ih =>
      rw [sendChunks_cons positive filled]
      have first : (v.shared p.memory p.state).length + (data.take size).length ≤ total := by
        rw [List.length_take]
        omega
      obtain ⟨p₁, stays, ⟨e, run, broken⟩ | ⟨run, shared⟩⟩ := sendChunk_cases carries sound stage
        (take_ne_nil positive filled) (List.length_take_le _ _) first
      · exact ⟨p₁, stays, .inl ⟨e, bind_error run, broken⟩⟩
      · rw [← stays.guest] at carries
        obtain ⟨q, rest, outcome⟩ := ih carries stays.sound (by
          rw [shared, List.length_append, List.length_take, List.length_drop]
          omega)
        refine ⟨q, stays.trans rest, ?_⟩
        rw [bind_ok run]
        rcases outcome with ⟨e, failed, broken⟩ | ⟨ok, grown⟩
        · exact .inl ⟨e, failed, fun placed => .later stays (broken (stays.guest ▸ placed))⟩
        · -- The rest is added to what the first round has left, so the two pieces come in order.
          refine .inr ⟨ok, ?_⟩
          rw [grown, shared, List.append_assoc, List.take_append_drop]

theorem sendBytes_cases (carries : Carries p.guest v transfer) (sound : v.sound p.memory p.state)
    (stage : Stage) (data : List UInt8) :
    ∃ q, p.Stays v q ∧ ((∃ e, sendBytes stage transfer data p = (.error e, q) ∧
        (Placed p.guest v transfer → Broken v transfer [data.length] stage p e)) ∨
      sendBytes stage transfer data p = (.ok (), q) ∧ v.shared q.memory q.state = data) := by
  have first : "clear_shared_bytes" ∈ transfer.calls := by cases transfer <;> simp [Transfer.calls]
  cases transfer with
  | fractional x => exact carries.moves.elim
  | buffered size positive =>
      have abi : Buffered p.guest v size := carries.moves
      rw [sendBytes]
      rcases bind_cases (call stage "clear_shared_bytes" [(data.length : Int)]) _ p with
        ⟨_, p₁, run, eq⟩ | ⟨e, p₁, run, eq⟩ <;> rw [eq] <;> have cleared := call_stays carries sound first run
      · have empty := abi.clear sound (call_returns run).2
        rw [← cleared.guest] at carries
        obtain ⟨q, stays, ⟨e, failed, broken⟩ | ⟨ok, shared⟩⟩ := sendChunks_cases carries cleared.sound stage data
          (by rw [empty, List.length_nil, Nat.zero_add])
        · exact ⟨q, cleared.trans stays, .inl ⟨e, failed, fun placed => .later cleared (broken (cleared.guest ▸ placed))⟩⟩
        · rw [empty, List.nil_append] at shared
          exact ⟨q, cleared.trans stays, .inr ⟨ok, shared⟩⟩
      · exact ⟨p₁, cleared, .inl ⟨e, rfl, fun _ => .of_call sound (.inl ⟨rfl, _, List.mem_singleton_self _, rfl⟩) run⟩⟩
  | direct =>
      have abi : Direct p.guest v := carries.moves
      rw [sendBytes]
      rcases bind_cases (call stage "clear_shared_bytes" [(data.length : Int)]) _ p with
        ⟨_, p₁, run, eq⟩ | ⟨e, p₁, run, eq⟩ <;> rw [eq] <;> have cleared := call_stays carries sound first run
      · obtain ⟨address, rfl, empty, place⟩ := abi.clear sound (call_returns run).2
        cases data with
        | nil => exact ⟨p₁, cleared, .inr ⟨rfl, empty rfl⟩⟩
        | cons b rest =>
            rw [List.isEmpty_cons, if_neg Bool.false_ne_true, write_int]
            cases written : p₁.memory.write? address (b :: rest) with
            | none =>
                refine ⟨p₁, cleared, .inl ⟨_, rfl, fun placed => ?_⟩⟩
                obtain ⟨nonnegative, inside⟩ := placed _ _ _ _ _ _ sound (call_returns run).2
                obtain ⟨memory, found⟩ := Memory.write?_isSome (List.cons_ne_nil b rest) nonnegative inside
                rw [written] at found
                cases found
            | some memory =>
                obtain ⟨after, shared, kept⟩ := place _ _ rfl written
                exact ⟨{ p₁ with memory := memory }, cleared.trans ⟨rfl, after, kept⟩, .inr ⟨rfl, shared⟩⟩
      · exact ⟨p₁, cleared, .inl ⟨e, rfl, fun _ => .of_call sound (.inl ⟨rfl, _, List.mem_singleton_self _, rfl⟩) run⟩⟩

theorem send_cases (carries : Carries p.guest v transfer) (sound : v.sound p.memory p.state)
    (stage : Stage) (text : String) :
    ∃ q, p.Stays v q ∧ ((∃ e, send stage transfer text p = (.error e, q) ∧ ∀ data,
        Utf8.encodeStrict text = .ok data → Placed p.guest v transfer →
          Broken v transfer [data.length] stage p e) ∨
      send stage transfer text p = (.ok (), q) ∧
        Utf8.encodeStrict text = .ok (v.shared q.memory q.state)) := by
  unfold send
  cases encoded : Utf8.encodeStrict text with
  | error fault => exact ⟨p, ⟨rfl, sound, rfl⟩, .inl ⟨_, rfl, fun data eq => by cases eq⟩⟩
  | ok data =>
      obtain ⟨q, stays, ⟨e, run, broken⟩ | ⟨run, shared⟩⟩ := sendBytes_cases carries sound stage data
      · refine ⟨q, stays, .inl ⟨e, run, fun _ same => ?_⟩⟩
        cases same
        exact broken
      · exact ⟨q, stays, .inr ⟨run, by rw [shared]⟩⟩

theorem send_ok {text : String} {data : List UInt8} (carries : Carries p.guest v transfer)
    (ready : Ready p.guest v transfer) (sound : v.sound p.memory p.state) (stage : Stage)
    (fits : v.Fits text) (encoded : Utf8.encodeStrict text = .ok data) :
    ∃ q, send stage transfer text p = (.ok (), q) ∧ p.Stays v q ∧ v.shared q.memory q.state = data := by
  obtain ⟨q, stays, ⟨e, -, broken⟩ | ⟨run, shared⟩⟩ := send_cases carries sound stage text
  · refine absurd (broken data encoded ready.placed) (not_broken ready ?_)
    simpa only [List.forall_mem_singleton] using fits data encoded
  · exact ⟨q, run, stays, Except.ok.inj (shared.symm.trans encoded)⟩

/-! ## Transfers, whatever the plugin answers -/

section

variable {I : Plugin σ → Prop} {C : PluginError → Prop}

theorem call_raises (keeps : Keeps I (call stage name args)) :
    Raises I (PluginError.IsCall stage) (call stage name args) :=
  fun p holds => ⟨keeps p holds, fun _ _ => trivial, fun _ failed => call_error failed⟩

def SendFails (C : PluginError → Prop) (e : PluginError) : Prop := C e ∨ e.isUnwritten = true

def ReceiveFails (C : PluginError → Prop) (e : PluginError) : Prop := C e ∨ e.isUnread = true

theorem call_sendFails (raises : Raises I C (call stage name args)) : Raises I (SendFails C) (call stage name args) :=
  raises.imp (fun _ => id) fun _ => .inl

theorem call_receiveFails (raises : Raises I C (call stage name args)) :
    Raises I (ReceiveFails C) (call stage name args) :=
  raises.imp (fun _ => id) fun _ => .inl

theorem write_raises (writes : ∀ p m, I p → I { p with memory := m }) (pointer : Reply) (data : List UInt8) :
    Raises I (SendFails C) (write pointer data) := by
  have attempt : ∀ address, Raises I (SendFails C) (write (.int address) data) := by
    intro address p holds
    rw [write_int]
    cases p.memory.write? address data with
    | none => exact Yields.throw (.inr rfl) p holds
    | some memory => exact Yields.pure trivial _ (writes p memory holds)
  cases pointer with
  | int address => exact attempt address
  | nothing => exact attempt 0
  | float x => exact .throw (.inr rfl)
  | many values => exact .throw (.inr rfl)

theorem sendChunks_raises (positive : 0 < size)
    (locates : ∀ args, Raises I C (call stage "get_wasm_memory_buffer" args))
    (appends : ∀ args, Raises I C (call stage "add_to_shared_bytes_from_buffer" args))
    (writes : ∀ p m, I p → I { p with memory := m }) (data : List UInt8) :
    Raises I (SendFails C) (sendChunks stage size positive data) := by
  induction data using sendChunks.induct size positive with
  | case1 =>
      rw [sendChunks_nil]
      exact .pure trivial
  | case2 data filled ih =>
      rw [sendChunks_cons positive filled]
      have round : Raises I (SendFails C) (sendChunk stage (data.take size)) := by
        refine .bind (call_sendFails (locates _)) fun pointer _ => ?_
        refine .bind (write_raises writes pointer _) fun _ _ => ?_
        exact .bind (call_sendFails (appends _)) fun _ _ => .pure trivial
      exact .bind round fun _ _ => ih

theorem sendBytes_raises (calls : ∀ name ∈ transfer.calls, ∀ args, Raises I C (call stage name args))
    (writes : ∀ p m, I p → I { p with memory := m }) (data : List UInt8) :
    Raises I (SendFails C) (sendBytes stage transfer data) := by
  cases transfer with
  | direct =>
      refine .bind (call_sendFails (calls _ (by simp [Transfer.calls]) _)) fun pointer _ => ?_
      split
      · exact .pure trivial
      · exact write_raises writes pointer data
  | buffered size positive =>
      refine .bind (call_sendFails (calls _ (by simp [Transfer.calls]) _)) fun _ _ => ?_
      exact sendChunks_raises positive (calls _ (by simp [Transfer.calls])) (calls _ (by simp [Transfer.calls])) writes
        data
  | fractional x =>
      refine .bind (call_sendFails (calls _ (by simp [Transfer.calls]) _)) fun _ _ => ?_
      split
      · exact .pure trivial
      · exact .throw (.inr rfl)

theorem send_raises (calls : ∀ name ∈ transfer.calls, ∀ args, Raises I C (call stage name args))
    (writes : ∀ p m, I p → I { p with memory := m }) (text : String) :
    Raises I (fun e => SendFails C e ∨ ∃ fault, Utf8.encodeStrict text = .error fault ∧ e = .unencodable fault)
      (send stage transfer text) := by
  unfold send
  cases Utf8.encodeStrict text with
  | error fault => exact .throw (.inr ⟨fault, rfl, rfl⟩)
  | ok data => exact (sendBytes_raises calls writes data).imp (fun _ => id) fun _ => .inl

theorem read_raises (pointer count : Reply) : Raises I (ReceiveFails C) (read pointer count) := by
  intro q holds
  unfold read
  split
  · exact Yields.pure trivial q holds
  all_goals exact Yields.throw (.inr rfl) q holds

theorem fetch_raises (exposes : ∀ args, Raises I C (call stage "set_buffer_with_shared_bytes" args))
    (locates : ∀ args, Raises I C (call stage "get_wasm_memory_buffer" args)) (offset count : Nat) :
    Raises I (ReceiveFails C) (fetch stage offset count) :=
  .bind (call_receiveFails (exposes _)) fun _ _ =>
    .bind (call_receiveFails (locates _)) fun pointer _ => read_raises pointer _

theorem receiveChunks_raises (fetches : ∀ offset count, Raises I (ReceiveFails C) (fetch stage offset count))
    (size patience length : Nat) (received : List UInt8) :
    Raises I (ReceiveFails C) (receiveChunks stage size patience length received) := by
  induction patience, received using receiveChunks.induct length with
  | case1 patience received short idle busy =>
      rw [receiveChunks.eq_def, dif_pos short]
      refine .bind (fetches _ _) fun chunk _ => ?_
      split
      · cases patience with
        | zero => exact .throw (.inr rfl)
        | succ k => exact idle
      · rename_i filled
        exact busy chunk filled
  | case2 patience received done =>
      rw [receiveChunks.eq_def, dif_neg done]
      exact .pure trivial

theorem refuseArgument_raises {α : Type} (calls : ∀ args, Raises I C (call stage name args))
    (count : Nat) (argument : Binary64) :
    Raises I (ReceiveFails C) (refuseArgument (α := α) stage name count argument) := by
  intro q holds
  unfold refuseArgument
  split
  · exact Yields.throw (.inr rfl) q holds
  · obtain ⟨after, -, fails⟩ := calls (List.replicate count 0) q holds
    unfold call at after fails
    split
    all_goals
      rename_i eq
      rw [eq] at after fails
    · exact Yields.throw (.inr rfl) _ after
    · exact Yields.throw (.inl (fails _ rfl)) _ after

theorem refuseLength_raises (fetches : ∀ offset count, Raises I (ReceiveFails C) (fetch stage offset count))
    (exposes : ∀ args, Raises I C (call stage "set_buffer_with_shared_bytes" args)) (size patience : Nat)
    (length : Binary64) (received : Nat) :
    Raises I (ReceiveFails C) (refuseLength stage size patience length received) := by
  induction patience, received using refuseLength.induct size length with
  | case1 patience received more idle busy =>
      rw [refuseLength.eq_def, dif_pos more]
      refine .bind (fetches _ _) fun chunk _ => ?_
      split
      · cases patience with
        | zero => exact .throw (.inr rfl)
        | succ k => exact idle
      · rename_i filled
        exact busy chunk filled
  | case2 patience received done =>
      rw [refuseLength.eq_def, dif_neg done]
      exact refuseArgument_raises exposes _ _

theorem receiveBytes_raises (calls : ∀ name ∈ transfer.calls, ∀ args, Raises I C (call stage name args))
    (patience : Nat) (length : Reply) :
    Raises I (ReceiveFails C) (receiveBytes stage transfer patience length) := by
  by_cases direct : transfer = .direct
  · subst direct
    refine .bind (call_receiveFails (calls _ (by simp [Transfer.calls]) _)) fun pointer _ => ?_
    exact read_raises pointer length
  · have buffer : transfer.calls = ["clear_shared_bytes", "get_wasm_memory_buffer",
        "add_to_shared_bytes_from_buffer", "set_buffer_with_shared_bytes"] := by
      cases transfer <;> first | rfl | exact absurd rfl direct
    have exposes := calls "set_buffer_with_shared_bytes" (by simp [buffer])
    have fetches := fetch_raises exposes (calls "get_wasm_memory_buffer" (by simp [buffer]))
    unfold receiveBytes
    split
    · exact absurd rfl direct
    · exact receiveChunks_raises fetches _ _ _ _
    · split
      · exact .pure trivial
      split
      · exact refuseArgument_raises exposes _ _
      · exact receiveChunks_raises fetches _ _ _ _
    · split
      · exact .pure trivial
      split
      · exact refuseLength_raises fetches exposes _ _ _ _
      · exact .throw (.inr rfl)
    · split
      · exact .pure trivial
      · exact refuseArgument_raises exposes _ _
    · exact .throw (.inr rfl)

theorem receive_raises (calls : ∀ name ∈ transfer.calls, ∀ args, Raises I C (call stage name args))
    (patience : Nat) (length : Reply) :
    Raises I (ReceiveFails C) (receive stage transfer patience length) := by
  refine .bind (receiveBytes_raises calls patience length) fun bytes _ => ?_
  split
  · exact .pure trivial
  · exact .throw (.inr rfl)

end

theorem receive_stays (carries : Carries p.guest v transfer) (sound : v.sound p.memory p.state) (stage : Stage)
    (patience : Nat) (length : Reply) : p.Stays v (receive stage transfer patience length p).2 := by
  refine (receive_raises (fun name member args => call_raises ?_) patience length).keeps p ⟨rfl, sound, rfl⟩
  intro q stays
  rw [← stays.guest] at carries
  exact stays.trans (call_stays carries stays.sound member rfl)

/-! ## Receiving what is shared -/

theorem read_int (address count : Int) (p : Plugin σ) :
    read (.int address) (.int count) p = (.ok (p.memory.slice address (address + count)), p) := rfl

theorem fetch_cases {positive : 0 < size} (offset : Nat) {count : Nat}
    (carries : Carries p.guest v (.buffered size positive)) (placed : Placed p.guest v (.buffered size positive))
    (sound : v.sound p.memory p.state) (stage : Stage) (fits : count ≤ size)
    (inside : offset + count ≤ (v.shared p.memory p.state).length) :
    ∃ q, p.Stays v q ∧ ((∃ e, fetch stage offset count p = (.error e, q) ∧
        Broken v (.buffered size positive) [] stage p e) ∨
      fetch stage offset count p = (.ok (((v.shared p.memory p.state).drop offset).take count), q) ∧
        v.shared q.memory q.state = v.shared p.memory p.state) := by
  have abi : Buffered p.guest v size := carries.moves
  unfold fetch
  rcases bind_cases (call stage "set_buffer_with_shared_bytes" [(offset : Int), (count : Int)]) _ p with
    ⟨_, p₁, run₁, eq⟩ | ⟨e, p₁, run₁, eq⟩ <;> rw [eq] <;>
    have stays₁ := call_stays carries sound (by simp [Transfer.calls]) run₁
  · obtain ⟨shared₁, window₁⟩ := abi.expose sound fits inside (call_returns run₁).2
    rw [← stays₁.guest] at carries abi placed
    rcases bind_cases (call stage "get_wasm_memory_buffer" []) (fun pointer => read pointer (.int count)) p₁ with
      ⟨pointer, q, run₂, eq⟩ | ⟨e, q, run₂, eq⟩ <;> rw [eq] <;>
      have stays₂ := call_stays carries stays₁.sound (by simp [Transfer.calls]) run₂
    · obtain ⟨rfl, shared₂, window₂⟩ := abi.locate stays₁.sound (call_returns run₂).2
      refine ⟨q, stays₁.trans stays₂, .inr ⟨?_, shared₂.trans shared₁⟩⟩
      rw [read_int, ← window₁, ← window₂, View.window, Memory.take_slice (placed _ _ stays₂.sound) fits]
    · exact ⟨q, stays₁.trans stays₂,
        .inl ⟨e, rfl, .later stays₁ (.of_call stays₁.sound (.inr (.inl ⟨rfl, rfl⟩)) run₂)⟩⟩
  · refine ⟨p₁, stays₁, .inl ⟨e, rfl, .of_call sound ?_ run₁⟩⟩
    exact .inr (.inr (.inr ⟨rfl, offset, count, fits, inside, rfl⟩))

theorem receiveChunks_cases {positive : 0 < size} {data : List UInt8}
    (carries : Carries p.guest v (.buffered size positive)) (placed : Placed p.guest v (.buffered size positive))
    (sound : v.sound p.memory p.state) (shared : v.shared p.memory p.state = data) (stage : Stage) (patience : Nat)
    (received : List UInt8) (front : received = data.take received.length) :
    ∃ q, p.Stays v q ∧ ((∃ e, receiveChunks stage size patience data.length received p = (.error e, q) ∧
        Broken v (.buffered size positive) [] stage p e) ∨
      receiveChunks stage size patience data.length received p = (.ok data, q) ∧
        v.shared q.memory q.state = data) := by
  induction patience, received using receiveChunks.induct data.length generalizing p with
  | case1 patience received short _ busy =>
      have fits : min (data.length - received.length) size ≤ size := Nat.min_le_right _ _
      obtain ⟨p₁, stays, outcome⟩ := fetch_cases received.length carries placed sound stage fits
        (by rw [shared]; omega)
      rw [receiveChunks.eq_def, dif_pos short]
      rcases outcome with ⟨e, run, broken⟩ | ⟨run, same⟩
      · exact ⟨p₁, stays, .inl ⟨e, bind_error run, broken⟩⟩
      rw [shared] at run same
      -- A round brings at least one byte, so patience is never spent.
      have filled : (data.drop received.length).take (min (data.length - received.length) size) ≠ [] := by
        rw [Ne, List.take_eq_nil_iff, List.drop_eq_nil_iff]
        omega
      rw [bind_ok run, dif_neg filled]
      rw [← stays.guest] at carries placed
      obtain ⟨q, stays', outcome⟩ := busy _ filled carries placed stays.sound same (by
        nth_rewrite 1 [front]
        rw [← List.take_add, List.length_append, List.length_take, List.length_drop]
        congr 1
        omega)
      refine ⟨q, stays.trans stays', outcome.imp_left ?_⟩
      exact fun ⟨e, failed, broken⟩ => ⟨e, failed, .later stays broken⟩
  | case2 patience received done =>
      rw [receiveChunks.eq_def, dif_neg done]
      have whole : received = data := by
        rw [front, List.take_of_length_le (by omega)]
      exact ⟨p, ⟨rfl, sound, rfl⟩, .inr ⟨by rw [whole]; rfl, shared⟩⟩

theorem receiveBytes_cases (carries : Carries p.guest v transfer) (placed : Placed p.guest v transfer)
    (sound : v.sound p.memory p.state) (stage : Stage) (patience : Nat) :
    ∃ q, p.Stays v q ∧
      ((∃ e, receiveBytes stage transfer patience (.int (v.shared p.memory p.state).length) p = (.error e, q) ∧
        Broken v transfer [] stage p e) ∨
      receiveBytes stage transfer patience (.int (v.shared p.memory p.state).length) p =
          (.ok (v.shared p.memory p.state), q) ∧
        v.shared q.memory q.state = v.shared p.memory p.state) := by
  cases transfer with
  | fractional x => exact carries.moves.elim
  | buffered size positive =>
      rw [receiveBytes, Int.toNat_natCast]
      exact receiveChunks_cases carries placed sound rfl stage patience [] rfl
  | direct =>
      have abi : Direct p.guest v := carries.moves
      rw [receiveBytes]
      rcases bind_cases (call stage "get_shared_bytes_ptr" [])
        (fun pointer => read pointer (.int (v.shared p.memory p.state).length)) p with
        ⟨pointer, q, run, eq⟩ | ⟨e, q, run, eq⟩ <;> rw [eq] <;>
        have stays := call_stays carries sound (by simp [Transfer.calls]) run
      · obtain ⟨address, rfl, same, slice⟩ := abi.locate sound (call_returns run).2
        exact ⟨q, stays, .inr ⟨by rw [read_int, slice], same⟩⟩
      · exact ⟨q, stays, .inl ⟨e, rfl, .of_call sound (.inr ⟨rfl, rfl⟩) run⟩⟩

theorem receive_cases (carries : Carries p.guest v transfer) (placed : Placed p.guest v transfer)
    (sound : v.sound p.memory p.state) (stage : Stage) (patience : Nat) :
    ∃ q, p.Stays v q ∧
      ((∃ e, receive stage transfer patience (.int (v.shared p.memory p.state).length) p = (.error e, q) ∧
        Broken v transfer [] stage p e) ∨
      receive stage transfer patience (.int (v.shared p.memory p.state).length) p =
          ((Utf8.decode (v.shared p.memory p.state)).mapError .badText, q) ∧
        v.shared q.memory q.state = v.shared p.memory p.state) := by
  obtain ⟨q, stays, ⟨e, run, broken⟩ | ⟨run, same⟩⟩ := receiveBytes_cases carries placed sound stage patience
  · exact ⟨q, stays, .inl ⟨e, bind_error run, broken⟩⟩
  · refine ⟨q, stays, .inr ⟨?_, same⟩⟩
    rw [receive, bind_ok run]
    cases Utf8.decode (v.shared p.memory p.state) <;> rfl

theorem receive_shared (carries : Carries p.guest v transfer) (ready : Ready p.guest v transfer)
    (sound : v.sound p.memory p.state) (stage : Stage) (patience : Nat) :
    ∃ q, receive stage transfer patience (.int (v.shared p.memory p.state).length) p =
        ((Utf8.decode (v.shared p.memory p.state)).mapError .badText, q) ∧ p.Stays v q ∧
      v.shared q.memory q.state = v.shared p.memory p.state := by
  obtain ⟨q, stays, ⟨e, -, broken⟩ | ⟨run, same⟩⟩ := receive_cases carries ready.placed sound stage patience
  · exact absurd broken (not_broken ready (List.forall_mem_nil _))
  · exact ⟨q, run, stays, same⟩

theorem receive_text {text : String} (carries : Carries p.guest v transfer) (ready : Ready p.guest v transfer)
    (sound : v.sound p.memory p.state) (stage : Stage) (patience : Nat)
    (shared : v.shared p.memory p.state = Utf8.bytes text) :
    ∃ q, receive stage transfer patience (.int (Utf8.bytes text).length) p = (.ok (Text.held text), q) ∧
      p.Stays v q := by
  obtain ⟨q, run, stays, -⟩ := receive_shared carries ready sound stage patience
  rw [shared, Utf8.decode_bytes] at run
  exact ⟨q, run, stays⟩

end Host

end PluginKit
