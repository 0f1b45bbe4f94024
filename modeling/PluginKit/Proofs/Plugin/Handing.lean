import PluginKit.Proofs.Plugin.Contract
import PluginKit.Proofs.Plugin.Observed
import PluginKit.Proofs.Plugin.Transfer

/-!
Handing configurations and other values over to a plugin that never fails. What the plugin keeps after each call is
given by a function, so that what it keeps after all of them can be told.
-/

namespace PluginKit

variable {σ κ : Type}

structure Plugin.Holds (v : View σ κ) (k : κ) (p q : Plugin σ) : Prop where
  guest : q.guest = p.guest
  sound : v.sound q.memory q.state
  kept : v.kept q.memory q.state = k

theorem Plugin.Stays.holds {v : View σ κ} {k : κ} {p q r : Plugin σ} (first : p.Stays v q)
    (second : q.Holds v k r) : p.Holds v k r :=
  ⟨second.guest.trans first.guest, second.sound, second.kept⟩

def Transfer.takers : Transfer → List String
  | .direct => ["register_config", "release_config"]
  | _ => ["set_global_config", "set_plugin_config"]

structure Abi.Heeds (names : List String) (next : κ → String → List Int → List UInt8 → κ) (g : Guest σ) (v : View σ κ)
    (transfer : Transfer) : Prop where
  carries : Carries g v transfer
  ready : Ready g v transfer
  exported : ∀ name ∈ transfer.takers, g.exports name = some .function
  resettable : (g.exports "reset_config").isSome → g.exports "reset_config" = some .function
  completes : ∀ {name args m s}, name ∈ names → v.sound m s → g.Completes name args m s
  holds : ∀ {name args m s reply m' s'}, name ∈ names → v.sound m s → g.Returns name args m s reply m' s' →
    v.sound m' s' ∧ v.kept m' s' = next (v.kept m s) name args (v.shared m s)

open Activity Abi

variable {names : List String} {next : κ → String → List Int → List UInt8 → κ} {v : View σ κ} {p q : Plugin σ}
  {transfer : Transfer} {name : String}

theorem Abi.Heeds.fewer {names' : List String} {g : Guest σ} (heeds : Heeds names next g v transfer)
    (subset : names' ⊆ names) : Heeds names' next g v transfer where
  carries := heeds.carries
  ready := heeds.ready
  exported := heeds.exported
  resettable := heeds.resettable
  completes member := heeds.completes (subset member)
  holds member := heeds.holds (subset member)

theorem Host.call_holds (heeds : Heeds names next p.guest v transfer) (sound : v.sound p.memory p.state)
    (stage : Stage) (known : name ∈ names) (exported : p.guest.exports name = some .function) (args : List Int) :
    ∃ reply q, call stage name args p = (.ok reply, q) ∧
      p.Holds v (next (v.kept p.memory p.state) name args (v.shared p.memory p.state)) q ∧
      p.guest.Returns name args p.memory p.state reply q.memory q.state := by
  obtain ⟨reply, q, run⟩ := call_completes stage exported (heeds.completes known sound)
  obtain ⟨guest, returned⟩ := call_returns run
  obtain ⟨after, kept⟩ := heeds.holds known sound returned
  exact ⟨reply, q, run, ⟨guest, after, kept⟩, returned⟩

namespace Formatter

variable {f : Formatter σ} {c : Configuration} {value : Value}

theorem host_ok {α : Type} {x : Host σ α} {a : α} (run : x f.plugin = (.ok a, q)) :
    host x f = (.ok a, { f with plugin := q }) := by
  rw [host_apply, run]

theorem send_ok {text : String} {data : List UInt8} (heeds : Heeds names next f.plugin.guest v f.transfer)
    (sound : v.sound f.plugin.memory f.plugin.state) (stage : Stage) (fits : v.Fits text)
    (encoded : Utf8.encodeStrict text = .ok data) :
    ∃ q, send stage text f = (.ok (), { f with plugin := q }) ∧ f.plugin.Stays v q ∧
      v.shared q.memory q.state = data := by
  obtain ⟨q, run, rest⟩ := Host.send_ok heeds.carries heeds.ready sound stage fits encoded
  exact ⟨q, host_ok run, rest⟩

theorem call_ok (heeds : Heeds names next f.plugin.guest v f.transfer)
    (sound : v.sound f.plugin.memory f.plugin.state) (stage : Stage) (known : name ∈ names)
    (exported : f.plugin.guest.exports name = some .function) (args : List Int) :
    ∃ reply q, call stage name args f = (.ok reply, { f with plugin := q }) ∧
      f.plugin.Holds v (next (v.kept f.plugin.memory f.plugin.state) name args
        (v.shared f.plugin.memory f.plugin.state)) q ∧
      f.plugin.guest.Returns name args f.plugin.memory f.plugin.state reply q.memory q.state := by
  obtain ⟨reply, q, run, rest⟩ := Host.call_holds heeds sound stage known exported args
  exact ⟨reply, q, host_ok run, rest⟩

theorem sendValue_eq (writable : Json.unwritable? value = none) (stage : Stage) :
    sendValue (σ := σ) stage value = send stage (Json.text value) := by
  rw [sendValue, Json.write, writable]

theorem sendValue_error {fault : Json.Unwritable} (unwritable : Json.unwritable? value = some fault) (stage : Stage)
    (f : Formatter σ) : sendValue stage value f = (.error (.unwritable fault), f) := by
  rw [sendValue, Json.write, unwritable]
  rfl

theorem deliver_ok (heeds : Heeds names next f.plugin.guest v f.transfer)
    (sound : v.sound f.plugin.memory f.plugin.state) (fits : v.FitsValue value)
    (writable : Json.unwritable? value = none) (stage : Stage) (known : name ∈ names)
    (exported : f.plugin.guest.exports name = some .function) (args : List Int) :
    ∃ p reply q, sendValue stage value f = (.ok (), { f with plugin := p }) ∧
      call stage name args { f with plugin := p } = (.ok reply, { f with plugin := q }) ∧
      f.plugin.Holds v (next (v.kept f.plugin.memory f.plugin.state) name args (Json.bytes value)) q := by
  have room : v.Fits (Json.text value) := fits _ (by rw [Json.write, writable])
  obtain ⟨p, sent, stays, shared⟩ := send_ok heeds sound stage room (Json.encodeStrict_text value)
  rw [← stays.guest] at heeds exported
  obtain ⟨reply, q, run, holds, -⟩ :=
    call_ok (f := { f with plugin := p }) heeds stays.sound stage known exported args
  rw [stays.kept, shared] at holds
  exact ⟨p, reply, q, by rw [sendValue_eq writable, sent], run, stays.holds holds⟩

theorem handOver_ok (heeds : Heeds names next f.plugin.guest v f.transfer)
    (sound : v.sound f.plugin.memory f.plugin.state) (fits : v.FitsValue value)
    (writable : Json.unwritable? value = none) (stage : Stage) (known : name ∈ names)
    (exported : f.plugin.guest.exports name = some .function) :
    ∃ q, handOver stage value name f = (.ok (), { f with plugin := q }) ∧
      f.plugin.Holds v (next (v.kept f.plugin.memory f.plugin.state) name [] (Json.bytes value)) q := by
  obtain ⟨p, reply, q, sent, run, holds⟩ := deliver_ok heeds sound fits writable stage known exported []
  refine ⟨q, ?_, holds⟩
  rw [handOver, bind_ok sent, bind_ok run]
  rfl

theorem handOver_error {fault : Json.Unwritable} (unwritable : Json.unwritable? value = some fault) (stage : Stage)
    (name : String) (f : Formatter σ) : handOver stage value name f = (.error (.unwritable fault), f) :=
  bind_error (sendValue_error unwritable stage f)

theorem register_ok (heeds : Heeds names next f.plugin.guest v f.transfer) (configs : configCalls ⊆ names)
    (direct : f.transfer = .direct) (sound : v.sound f.plugin.memory f.plugin.state) (fits : v.FitsValue value)
    (writable : Json.unwritable? value = none) :
    ∃ q, register value f = (.ok (), { f with plugin := q }) ∧
      f.plugin.Holds v (next (v.kept f.plugin.memory f.plugin.state) "register_config" [(f.configId : Int)]
        (Json.bytes value)) q := by
  have exported := heeds.exported "register_config" (by rw [direct]; simp [Transfer.takers])
  obtain ⟨p, reply, q, sent, run, holds⟩ := deliver_ok heeds sound fits writable .running
    (configs (by simp [configCalls])) exported [(f.configId : Int)]
  refine ⟨q, ?_, holds⟩
  rw [register, bind_ok sent, get_bind, bind_ok run]
  rfl

/-! ## Configuring -/

variable (next v) in
def released (f : Formatter σ) : κ :=
  let k := v.kept f.plugin.memory f.plugin.state
  if f.configured then next k "release_config" [(f.configId : Int)] (v.shared f.plugin.memory f.plugin.state) else k

variable (next v) in
def wiped (f : Formatter σ) : κ :=
  let k := v.kept f.plugin.memory f.plugin.state
  if f.plugin.hasExport "reset_config" then next k "reset_config" [] (v.shared f.plugin.memory f.plugin.state) else k

variable (next v) in
def taken (c : Configuration) (f : Formatter σ) : κ :=
  match f.transfer with
  | .direct => next (f.released next v) "register_config" [((f.configId + 1 : Nat) : Int)] (Json.bytes c.record)
  | _ => next (next (f.wiped next v) "set_global_config" [] (Json.bytes (.object c.globals))) "set_plugin_config" []
      (Json.bytes (.object c.plugin))

variable (next v) in
def torn (c : Configuration) (f : Formatter σ) : κ :=
  match f.transfer with
  | .direct => f.released next v
  | _ => match Json.unwritable? (.object c.globals) with
    | some _ => f.wiped next v
    | none => next (f.wiped next v) "set_global_config" [] (Json.bytes (.object c.globals))

def nextId (f : Formatter σ) : Nat :=
  match f.transfer with
  | .direct => f.configId + 1
  | _ => f.configId

theorem taken_direct (direct : f.transfer = .direct) : f.taken next v c = next (f.released next v) "register_config"
    [((f.configId + 1 : Nat) : Int)] (Json.bytes c.record) := by
  rw [taken, direct]

theorem taken_of_ne_direct (other : f.transfer ≠ .direct) :
    f.taken next v c = next (next (f.wiped next v) "set_global_config" [] (Json.bytes (.object c.globals)))
      "set_plugin_config" [] (Json.bytes (.object c.plugin)) := by
  rw [taken]
  split <;> first | rfl | contradiction

theorem torn_direct (direct : f.transfer = .direct) : f.torn next v c = f.released next v := by
  rw [torn, direct]

theorem torn_of_ne_direct (other : f.transfer ≠ .direct) :
    f.torn next v c = match Json.unwritable? (.object c.globals) with
      | some _ => f.wiped next v
      | none => next (f.wiped next v) "set_global_config" [] (Json.bytes (.object c.globals)) := by
  rw [torn]
  split <;> first | rfl | contradiction

theorem nextId_direct (direct : f.transfer = .direct) : f.nextId = f.configId + 1 := by
  rw [nextId, direct]

theorem nextId_of_ne_direct (other : f.transfer ≠ .direct) : f.nextId = f.configId := by
  rw [nextId]
  split <;> first | rfl | contradiction

structure Takes (v : View σ κ) (k : κ) (f f' : Formatter σ) : Prop where
  holds : f.plugin.Holds v k f'.plugin
  transfer : f'.transfer = f.transfer
  patience : f'.patience = f.patience
  configId : f'.configId = f.nextId

theorem releaseConfig_ok (heeds : Heeds names next f.plugin.guest v f.transfer) (configs : configCalls ⊆ names)
    (direct : f.transfer = .direct) (sound : v.sound f.plugin.memory f.plugin.state) :
    ∃ q, releaseConfig f = (.ok (), { f with plugin := q }) ∧ f.plugin.Holds v (f.released next v) q := by
  rw [releaseConfig, get_bind, released]
  split
  · have exported := heeds.exported "release_config" (by rw [direct]; simp [Transfer.takers])
    obtain ⟨reply, q, run, holds, -⟩ := call_ok heeds sound .running (configs (by simp [configCalls])) exported
      [(f.configId : Int)]
    rw [bind_ok run]
    exact ⟨q, rfl, holds⟩
  · exact ⟨f.plugin, rfl, rfl, sound, rfl⟩

theorem resetConfig_ok (heeds : Heeds names next f.plugin.guest v f.transfer) (configs : configCalls ⊆ names)
    (sound : v.sound f.plugin.memory f.plugin.state) :
    ∃ q, resetConfig f = (.ok (), { f with plugin := q }) ∧ f.plugin.Holds v (f.wiped next v) q := by
  rw [resetConfig, get_bind, wiped]
  split
  · rename_i present
    obtain ⟨reply, q, run, holds, -⟩ := call_ok heeds sound .running (configs (by simp [configCalls]))
      (heeds.resettable present) []
    rw [bind_ok run]
    exact ⟨q, rfl, holds⟩
  · exact ⟨f.plugin, rfl, rfl, sound, rfl⟩

theorem unwritable?_record (c : Configuration) :
    Json.unwritable? c.record = (Json.unwritable? (.object c.globals) <|> Json.unwritable? (.object c.plugin)) := by
  simp [Configuration.record, Value.record, Fields.named, Json.unwritable?, Json.unwritableField?,
    Json.unwritableKey?]

def HandsOver (next : κ → String → List Int → List UInt8 → κ) (v : View σ κ) (c : Configuration) (f : Formatter σ)
    (outcome : Except PluginError Unit × Formatter σ) : Prop :=
  match Json.unwritable? c.record with
  | none => outcome.1 = .ok () ∧ f.Takes v (f.taken next v c) outcome.2 ∧ outcome.2.configured = f.configured
  | some fault => outcome.1 = .error (.unwritable fault) ∧ f.Takes v (f.torn next v c) outcome.2 ∧
      outcome.2.configured = f.configured

theorem registerConfig_hands (heeds : Heeds names next f.plugin.guest v f.transfer) (configs : configCalls ⊆ names)
    (direct : f.transfer = .direct) (sound : v.sound f.plugin.memory f.plugin.state) (fits : v.FitsConfig f.transfer c) :
    f.HandsOver next v c (registerConfig c.globals c.plugin f) := by
  obtain ⟨p, released, holds⟩ := releaseConfig_ok heeds configs direct sound
  rw [← holds.guest] at heeds
  rw [direct] at fits
  rw [registerConfig_eq, bind_ok released, modify_bind, HandsOver]
  have counted := (nextId_direct direct).symm
  cases writable : Json.unwritable? c.record with
  | none =>
      obtain ⟨q, registered, holds'⟩ := register_ok (f := { f with plugin := p, configId := f.configId + 1 }) heeds
        configs direct holds.sound (fits _ (by simp [Configuration.values])) writable
      rw [registered]
      refine ⟨rfl, ⟨⟨holds'.guest.trans holds.guest, holds'.sound, ?_⟩, rfl, rfl, counted⟩, rfl⟩
      rw [holds'.kept, holds.kept, taken_direct direct]
  | some fault =>
      rw [register, bind_error (sendValue_error writable _ _)]
      refine ⟨rfl, ⟨⟨holds.guest, holds.sound, ?_⟩, rfl, rfl, counted⟩, rfl⟩
      rw [holds.kept, torn_direct direct]

theorem takers_of_ne_direct (other : transfer ≠ .direct) :
    "set_global_config" ∈ transfer.takers ∧ "set_plugin_config" ∈ transfer.takers := by
  cases transfer <;> simp [Transfer.takers] at other ⊢

theorem replaceConfig_hands (heeds : Heeds names next f.plugin.guest v f.transfer) (configs : configCalls ⊆ names)
    (other : f.transfer ≠ .direct) (sound : v.sound f.plugin.memory f.plugin.state) (fits : v.FitsConfig f.transfer c) :
    f.HandsOver next v c (replaceConfig c.globals c.plugin f) := by
  have ⟨setGlobals, setPlugin⟩ := takers_of_ne_direct other
  have counted := (nextId_of_ne_direct other).symm
  rw [View.FitsConfig, Configuration.values_of_ne_direct other, List.forall_mem_cons, List.forall_mem_singleton] at fits
  obtain ⟨p, reset, holds⟩ := resetConfig_ok heeds configs sound
  rw [← holds.guest] at heeds
  rw [replaceConfig_eq, bind_ok reset, HandsOver, unwritable?_record, taken_of_ne_direct other, torn_of_ne_direct other]
  cases globals : Json.unwritable? (.object c.globals) with
  | some fault =>
      rw [bind_error (handOver_error globals _ _ _)]
      exact ⟨rfl, ⟨holds, rfl, rfl, counted⟩, rfl⟩
  | none =>
      obtain ⟨p₁, first, holds₁⟩ := handOver_ok (f := { f with plugin := p }) heeds holds.sound fits.1 globals .running
        (configs (by simp [configCalls])) (heeds.exported _ setGlobals)
      rw [bind_ok first]
      rw [← holds₁.guest] at heeds
      have guest := holds₁.guest.trans holds.guest
      cases plugin : Json.unwritable? (.object c.plugin) with
      | some fault =>
          rw [handOver_error plugin]
          refine ⟨rfl, ⟨⟨guest, holds₁.sound, ?_⟩, rfl, rfl, counted⟩, rfl⟩
          rw [holds₁.kept, holds.kept]
      | none =>
          obtain ⟨p₂, second, holds₂⟩ := handOver_ok (f := { f with plugin := p₁ }) heeds holds₁.sound fits.2 plugin
            .running (configs (by simp [configCalls])) (heeds.exported _ setPlugin)
          rw [second]
          refine ⟨rfl, ⟨⟨holds₂.guest.trans guest, holds₂.sound, ?_⟩, rfl, rfl, counted⟩, rfl⟩
          rw [holds₂.kept, holds₁.kept, holds.kept]

theorem handConfig_hands (heeds : Heeds names next f.plugin.guest v f.transfer) (configs : configCalls ⊆ names)
    (sound : v.sound f.plugin.memory f.plugin.state) (fits : v.FitsConfig f.transfer c) :
    f.HandsOver next v c (handConfig c.globals c.plugin f) := by
  rw [handConfig, get_bind]
  cases moved : f.transfer with
  | direct => exact registerConfig_hands heeds configs moved sound fits
  | buffered size positive => exact replaceConfig_hands heeds configs (by simp [moved]) sound fits
  | fractional x => exact replaceConfig_hands heeds configs (by simp [moved]) sound fits

theorem applyConfig_ok (heeds : Heeds names next f.plugin.guest v f.transfer) (configs : configCalls ⊆ names)
    (sound : v.sound f.plugin.memory f.plugin.state) (fits : v.FitsConfig f.transfer c)
    (writable : Json.unwritable? c.record = none) :
    ∃ f', applyConfig c.globals c.plugin f = (.ok (), f') ∧ f.Takes v (f.taken next v c) f' ∧
      f'.configured = true := by
  have hands := handConfig_hands heeds configs sound fits
  rw [HandsOver, writable] at hands
  obtain ⟨ok, takes, -⟩ := hands
  have run : handConfig c.globals c.plugin f = (.ok (), (handConfig c.globals c.plugin f).2) := Prod.ext ok rfl
  refine ⟨_, by rw [applyConfig_eq, bind_ok run, modify_bind]; rfl, ?_, rfl⟩
  exact ⟨⟨takes.holds.guest, takes.holds.sound, takes.holds.kept⟩, takes.transfer, takes.patience, takes.configId⟩

theorem applyConfig_error {fault : Json.Unwritable} (heeds : Heeds names next f.plugin.guest v f.transfer)
    (configs : configCalls ⊆ names) (sound : v.sound f.plugin.memory f.plugin.state)
    (fits : v.FitsConfig f.transfer c) (unwritable : Json.unwritable? c.record = some fault) :
    ∃ f', applyConfig c.globals c.plugin f = (.error (.unwritable fault), f') ∧ f.Takes v (f.torn next v c) f' ∧
      f'.configured = f.configured := by
  have hands := handConfig_hands heeds configs sound fits
  rw [HandsOver, unwritable] at hands
  obtain ⟨error, takes, configured⟩ := hands
  have run : handConfig c.globals c.plugin f =
      (.error (.unwritable fault), (handConfig c.globals c.plugin f).2) := Prod.ext error rfl
  exact ⟨_, by rw [applyConfig_eq, bind_error run], takes, configured⟩

theorem ensureConfig_configured (configured : f.configured = true) : ensureConfig f = (.ok (), f) := by
  rw [ensureConfig, get_bind, configured]
  rfl

theorem ensureConfig_idle (idle : f.configured = false) : ensureConfig f = applyConfig [] [] f := by
  rw [ensureConfig, get_bind, idle]
  rfl

/-! ## Ledgers among what is kept -/

section

variable (ledger : κ → Ledger) {f' : Formatter σ}

theorem released_ledger
    (follows : ∀ k name args shared, ledger (next k name args shared) = (ledger k).call name args shared true) :
    ledger (f.released next v) = if f.configured then
      { ledger (v.kept f.plugin.memory f.plugin.state) with registered := fun n => if n = f.configId then none
          else (ledger (v.kept f.plugin.memory f.plugin.state)).registered n }
      else ledger (v.kept f.plugin.memory f.plugin.state) := by
  rw [released]
  split
  · rw [follows, Ledger.call_release]
  · rfl

theorem wiped_ledger
    (follows : ∀ k name args shared, ledger (next k name args shared) = (ledger k).call name args shared true) :
    ledger (f.wiped next v) = if f.plugin.hasExport "reset_config" then
      { ledger (v.kept f.plugin.memory f.plugin.state) with globals := none, plugin := none }
      else ledger (v.kept f.plugin.memory f.plugin.state) := by
  rw [wiped]
  split
  · rw [follows, Ledger.call_reset]
  · rfl

theorem Takes.inForce
    (follows : ∀ k name args shared, ledger (next k name args shared) = (ledger k).call name args shared true)
    (takes : f.Takes v (f.taken next v c) f') :
    (ledger (v.kept f'.plugin.memory f'.plugin.state)).InForce f'.transfer f'.configArgs c := by
  rw [takes.holds.kept, configArgs, takes.transfer, takes.configId]
  by_cases direct : f.transfer = .direct
  · rw [taken_direct direct, nextId_direct direct, direct, follows, Ledger.call_register]
    exact ⟨_, rfl, if_pos rfl⟩
  · rw [taken_of_ne_direct direct, follows, Ledger.call_setPlugin, follows, Ledger.call_setGlobals]
    cases moved : f.transfer with
    | direct => exact absurd moved direct
    | buffered size positive => exact ⟨rfl, rfl⟩
    | fractional x => exact ⟨rfl, rfl⟩

theorem taken_rest
    (follows : ∀ k name args shared, ledger (next k name args shared) = (ledger k).call name args shared true)
    (c : Configuration) :
    (ledger (f.taken next v c)).override = (ledger (v.kept f.plugin.memory f.plugin.state)).override ∧
      (ledger (f.taken next v c)).path = (ledger (v.kept f.plugin.memory f.plugin.state)).path := by
  by_cases direct : f.transfer = .direct
  · rw [taken_direct direct, follows, Ledger.call_register, released_ledger ledger follows]
    split <;> exact ⟨rfl, rfl⟩
  · rw [taken_of_ne_direct direct, follows, Ledger.call_setPlugin, follows, Ledger.call_setGlobals,
      wiped_ledger ledger follows]
    split <;> exact ⟨rfl, rfl⟩

theorem torn_rest
    (follows : ∀ k name args shared, ledger (next k name args shared) = (ledger k).call name args shared true)
    (c : Configuration) :
    (ledger (f.torn next v c)).override = (ledger (v.kept f.plugin.memory f.plugin.state)).override ∧
      (ledger (f.torn next v c)).path = (ledger (v.kept f.plugin.memory f.plugin.state)).path := by
  by_cases direct : f.transfer = .direct
  · rw [torn_direct direct, released_ledger ledger follows]
    split <;> exact ⟨rfl, rfl⟩
  · rw [torn_of_ne_direct direct]
    cases Json.unwritable? (.object c.globals) with
    | some fault =>
        rw [wiped_ledger ledger follows]
        split <;> exact ⟨rfl, rfl⟩
    | none =>
        rw [follows, Ledger.call_setGlobals, wiped_ledger ledger follows]
        split <;> exact ⟨rfl, rfl⟩

end

end Formatter

end PluginKit
