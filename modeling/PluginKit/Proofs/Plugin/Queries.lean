import PluginKit.Proofs.Plugin.Configuring
import PluginKit.Proofs.Plugin.Handing
import PluginKit.Proofs.Plugin.Loading
import PluginKit.Proofs.Plugin.Reference

/-!
Questions among requests. A plugin that goes by what it was handed over cannot tell whether it was asked in between:
questions overwrite the shared bytes, and the first may hand over the empty configuration under a number of its own,
but every request sends its bytes anew and names its configuration. So a session is followed together with the same
session without its questions.
-/

namespace PluginKit

variable {σ ρ : Type}

structure Sight where
  globals : Option (List UInt8)
  plugin : Option (List UInt8)
  registered : Option (List UInt8)
  override : Option (List UInt8)
  path : Option (List UInt8)

namespace Ledger

def sight (l : Ledger) (transfer : Transfer) (args : List Int) : Sight :=
  match transfer with
  | .direct => ⟨none, none, args.head?.bind l.registered, l.override, l.path⟩
  | _ => ⟨l.globals, l.plugin, none, l.override, l.path⟩

theorem sight_of_ne_direct {transfer : Transfer} (other : transfer ≠ .direct) (l : Ledger) (args : List Int) :
    l.sight transfer args = ⟨l.globals, l.plugin, none, l.override, l.path⟩ := by
  cases transfer <;> first | rfl | exact absurd rfl other

theorem override_sight (l : Ledger) (transfer : Transfer) (args : List Int) :
    (l.sight transfer args).override = l.override := by
  cases transfer <;> rfl

theorem path_sight (l : Ledger) (transfer : Transfer) (args : List Int) : (l.sight transfer args).path = l.path := by
  cases transfer <;> rfl

end Ledger

def requestCalls : List String :=
  ["set_override_config", "set_file_path", "format", "get_formatted_text", "get_error_text"]

theorem requestCalls_subset : requestCalls ⊆ hostCalls := by simp [requestCalls, hostCalls]

def Sight.call (s : Sight) (name : String) (shared : List UInt8) : Sight :=
  match name with
  | "set_override_config" => { s with override := some shared }
  | "set_file_path" => { s with path := some shared }
  | "format" => { s with override := none }
  | _ => s

theorem Ledger.sight_call {name : String} (member : name ∈ requestCalls) (l : Ledger) (args args' : List Int)
    (shared : List UInt8) (transfer : Transfer) :
    (l.call name args shared true).sight transfer args' = (l.sight transfer args').call name shared := by
  simp only [requestCalls, List.mem_cons, List.not_mem_nil, or_false] at member
  rcases member with rfl | rfl | rfl | rfl | rfl <;> cases transfer <;> rfl

theorem Ledger.registered_request {name : String} (member : name ∈ requestCalls) (l : Ledger) (args : List Int)
    (shared : List UInt8) : (l.call name args shared true).registered = l.registered := by
  simp only [requestCalls, List.mem_cons, List.not_mem_nil, or_false] at member
  rcases member with rfl | rfl | rfl | rfl | rfl <;> rfl

def queryCalls : List String := ["get_resolved_config", "get_config_diagnostics", "get_plugin_info", "get_license_text"]

abbrev Conduct (ρ : Type) := String → Sight → List UInt8 → ρ → Reply × List UInt8 × ρ

/-- A plugin that never fails as long as there is room for what is sent, and handles requests by a conduct. Beside
what it was handed over it has a state of its own, which is left alone by configuring and by questions. -/
structure Abi.Conducts (react : Conduct ρ) (g : Guest σ) (v : View σ (Ledger × ρ)) (transfer : Transfer) : Prop where
  carries : Carries g v transfer
  ready : Ready g v transfer
  exported : ∀ name ∈ transfer.takers, g.exports name = some .function
  resettable : (g.exports "reset_config").isSome → g.exports "reset_config" = some .function
  completes : ∀ {name args m s}, name ∈ hostCalls → v.sound m s → g.Completes name args m s
  holds : ∀ {name args m s reply m' s'}, name ∈ hostCalls → v.sound m s → g.Returns name args m s reply m' s' →
    v.sound m' s' ∧ (v.kept m' s').1 = (v.kept m s).1.call name args (v.shared m s) true
  leaves : ∀ {name args m s reply m' s'}, name ∈ Formatter.configCalls ++ queryCalls → v.sound m s →
    g.Returns name args m s reply m' s' → (v.kept m' s').2 = (v.kept m s).2
  reacts : ∀ {name args m s reply m' s'}, name ∈ requestCalls → v.sound m s → g.Returns name args m s reply m' s' →
    (reply, v.shared m' s', (v.kept m' s').2) =
      react name ((v.kept m s).1.sight transfer args) (v.shared m s) (v.kept m s).2
  announces : ∀ {name args m s reply m' s'}, name = "get_formatted_text" ∨ name = "get_error_text" → v.sound m s →
    g.Returns name args m s reply m' s' → reply = .int (v.shared m' s').length

open Activity Abi

variable {react : Conduct ρ} {v : View σ (Ledger × ρ)} {transfer : Transfer} {name : String} {args : List Int}

abbrev Ledger.beside (k : Ledger × ρ) (name : String) (args : List Int) (shared : List UInt8) : Ledger × ρ :=
  (k.1.call name args shared true, k.2)

theorem asides_subset : Formatter.configCalls ++ queryCalls ⊆ hostCalls := by
  simp [Formatter.configCalls, queryCalls, hostCalls]

theorem Abi.Conducts.heeds {g : Guest σ} (conducts : Conducts react g v transfer) :
    Heeds (Formatter.configCalls ++ queryCalls) Ledger.beside g v transfer where
  carries := conducts.carries
  ready := conducts.ready
  exported := conducts.exported
  resettable := conducts.resettable
  completes member := conducts.completes (asides_subset member)
  holds member sound returned := by
    obtain ⟨after, ledger⟩ := conducts.holds (asides_subset member) sound returned
    exact ⟨after, Prod.ext ledger (conducts.leaves member sound returned)⟩

namespace Formatter

variable {f f' h h' : Formatter σ} {c : Configuration}

def ledger (v : View σ (Ledger × ρ)) (f : Formatter σ) : Ledger := (v.kept f.plugin.memory f.plugin.state).1

def own (v : View σ (Ledger × ρ)) (f : Formatter σ) : ρ := (v.kept f.plugin.memory f.plugin.state).2

def sight (v : View σ (Ledger × ρ)) (f : Formatter σ) : Sight := (f.ledger v).sight f.transfer f.configArgs

structure Conducted (react : Conduct ρ) (v : View σ (Ledger × ρ)) (f : Formatter σ) : Prop where
  conducts : Conducts react f.plugin.guest v f.transfer
  sound : v.sound f.plugin.memory f.plugin.state
  free : ∀ n : Int, (f.configId : Int) < n → (f.ledger v).registered n = none
  initial : v.FitsConfig f.transfer .empty

structure Kin (react : Conduct ρ) (v : View σ (Ledger × ρ)) (f h : Formatter σ) : Prop where
  left : f.Conducted react v
  right : h.Conducted react v
  guest : h.plugin.guest = f.plugin.guest
  transfer : h.transfer = f.transfer
  patience : h.patience = f.patience
  own : h.own v = f.own v
  override : (h.ledger v).override = (f.ledger v).override
  path : (h.ledger v).path = (f.ledger v).path

structure Matched (react : Conduct ρ) (v : View σ (Ledger × ρ)) (f h : Formatter σ) : Prop extends
    Kin react v f h where
  configured : f.configured = true
  configured' : h.configured = true
  sight : h.sight v = f.sight v

/-- A formatter and another that was asked questions, too. As long as the one is not configured, the other may be so
with the empty configuration. -/
inductive Twins (react : Conduct ρ) (v : View σ (Ledger × ρ)) (f h : Formatter σ) : Prop
  | matched : Matched react v f h → Twins react v f h
  | idle : Kin react v f h → f.configured = false →
    (h.configured = true → (h.ledger v).InForce h.transfer h.configArgs .empty) → Twins react v f h

/-! ## Configuring -/

structure Besides (v : View σ (Ledger × ρ)) (f : Formatter σ) (k : Ledger × ρ) : Prop where
  own : k.2 = f.own v
  override : k.1.override = (f.ledger v).override
  path : k.1.path = (f.ledger v).path
  free : (∀ n : Int, (f.configId : Int) < n → (f.ledger v).registered n = none) →
    ∀ n : Int, (f.nextId : Int) < n → k.1.registered n = none

theorem released_registered {n : Int} (free : (f.ledger v).registered n = none) :
    (f.released Ledger.beside v).1.registered n = none := by
  rw [released_ledger Prod.fst fun _ _ _ _ => rfl]
  split
  · change (if n = f.configId then none else (f.ledger v).registered n) = none
    rw [free, ite_self]
  · exact free

theorem wiped_registered : (f.wiped Ledger.beside v).1.registered = (f.ledger v).registered := by
  rw [wiped_ledger Prod.fst fun _ _ _ _ => rfl]
  split <;> rfl

theorem taken_besides (c : Configuration) : f.Besides v (f.taken Ledger.beside v c) := by
  obtain ⟨override, path⟩ : (f.taken Ledger.beside v c).1.override = (f.ledger v).override ∧
      (f.taken Ledger.beside v c).1.path = (f.ledger v).path := taken_rest Prod.fst (fun _ _ _ _ => rfl) c
  refine ⟨?_, override, path, fun free n above => ?_⟩
  · unfold taken released wiped
    repeat' split
    all_goals rfl
  · by_cases direct : f.transfer = .direct
    · rw [nextId_direct direct] at above
      rw [taken_direct direct]
      have other : n ≠ ((f.configId + 1 : Nat) : Int) := by omega
      exact (if_neg other).trans (released_registered (free n (by omega)))
    · rw [nextId_of_ne_direct direct] at above
      rw [taken_of_ne_direct direct]
      change (f.wiped Ledger.beside v).1.registered n = none
      rw [wiped_registered]
      exact free n above

theorem torn_besides (c : Configuration) : f.Besides v (f.torn Ledger.beside v c) := by
  obtain ⟨override, path⟩ : (f.torn Ledger.beside v c).1.override = (f.ledger v).override ∧
      (f.torn Ledger.beside v c).1.path = (f.ledger v).path := torn_rest Prod.fst (fun _ _ _ _ => rfl) c
  refine ⟨?_, override, path, fun free n above => ?_⟩
  · unfold torn released wiped
    repeat' split
    all_goals rfl
  · by_cases direct : f.transfer = .direct
    · rw [nextId_direct direct] at above
      rw [torn_direct direct]
      exact released_registered (free n (by omega))
    · rw [nextId_of_ne_direct direct] at above
      have registered : (f.torn Ledger.beside v c).1.registered = (f.ledger v).registered := by
        rw [torn_of_ne_direct direct]
        cases Json.unwritable? (.object c.globals) <;> exact wiped_registered
      rw [registered]
      exact free n above

theorem Conducted.takes {k : Ledger × ρ} (conducted : f.Conducted react v) (besides : f.Besides v k)
    (takes : f.Takes v k f') : f'.Conducted react v := by
  refine ⟨?_, takes.holds.sound, fun n above => ?_, takes.transfer ▸ conducted.initial⟩
  · rw [takes.holds.guest, takes.transfer]
    exact conducted.conducts
  · rw [takes.configId] at above
    rw [ledger, takes.holds.kept]
    exact besides.free conducted.free n above

theorem Kin.symm (kin : Kin react v f h) : Kin react v h f :=
  ⟨kin.right, kin.left, kin.guest.symm, kin.transfer.symm, kin.patience.symm, kin.own.symm, kin.override.symm,
    kin.path.symm⟩

theorem Kin.takes {k : Ledger × ρ} (kin : Kin react v f h) (besides : h.Besides v k) (takes : h.Takes v k h') :
    Kin react v f h' where
  left := kin.left
  right := kin.right.takes besides takes
  guest := takes.holds.guest.trans kin.guest
  transfer := takes.transfer.trans kin.transfer
  patience := takes.patience.trans kin.patience
  own := (congrArg Prod.snd takes.holds.kept).trans (besides.own.trans kin.own)
  override := (congrArg (fun k => k.1.override) takes.holds.kept).trans (besides.override.trans kin.override)
  path := (congrArg (fun k => k.1.path) takes.holds.kept).trans (besides.path.trans kin.path)

theorem Kin.matched (kin : Kin react v f h) (configured : f.configured = true) (configured' : h.configured = true)
    (inForce : (f.ledger v).InForce f.transfer f.configArgs c)
    (inForce' : (h.ledger v).InForce h.transfer h.configArgs c) : Matched react v f h := by
  refine ⟨kin, configured, configured', ?_⟩
  rw [sight, sight]
  rw [kin.transfer] at inForce' ⊢
  cases moved : f.transfer with
  | direct =>
      rw [moved] at inForce inForce'
      obtain ⟨id, args, found⟩ := inForce
      obtain ⟨id', args', found'⟩ := inForce'
      simp only [Ledger.sight, args, args', found, found', kin.override, kin.path, List.head?_cons, Option.bind_some]
  | buffered size positive =>
      rw [moved] at inForce inForce'
      simp only [Ledger.sight, inForce.1, inForce.2, inForce'.1, inForce'.2, kin.override, kin.path]
  | fractional x =>
      rw [moved] at inForce inForce'
      simp only [Ledger.sight, inForce.1, inForce.2, inForce'.1, inForce'.2, kin.override, kin.path]

theorem configs_subset : configCalls ⊆ configCalls ++ queryCalls := List.subset_append_left _ _

theorem Kin.applyConfig_matched (kin : Kin react v f h) (fits : v.FitsConfig f.transfer c)
    (writable : Json.unwritable? c.record = none) :
    ∃ f' h', applyConfig c.globals c.plugin f = (.ok (), f') ∧ applyConfig c.globals c.plugin h = (.ok (), h') ∧
      Matched react v f' h' := by
  obtain ⟨f', run, takes, configured⟩ :=
    applyConfig_ok kin.left.conducts.heeds configs_subset kin.left.sound fits writable
  obtain ⟨h', run', takes', configured'⟩ :=
    applyConfig_ok kin.right.conducts.heeds configs_subset kin.right.sound (kin.transfer.symm ▸ fits) writable
  refine ⟨f', h', run, run', ?_⟩
  have kin' := ((kin.takes (taken_besides c) takes').symm.takes (taken_besides c) takes).symm
  exact kin'.matched configured configured' (takes.inForce Prod.fst fun _ _ _ _ => rfl)
    (takes'.inForce Prod.fst fun _ _ _ _ => rfl)

theorem Conducted.torn_unregistered (conducted : f.Conducted react v) (direct : f.transfer = .direct)
    (takes : f.Takes v (f.torn Ledger.beside v c) f') : (f'.ledger v).registered f'.configId = none := by
  have kept : f'.ledger v = (f.torn Ledger.beside v c).1 := congrArg Prod.fst takes.holds.kept
  rw [kept, takes.configId, torn_direct direct, nextId_direct direct]
  exact released_registered (conducted.free _ (by omega))

theorem Matched.torn_sight (matched : Matched react v f h) (takes : f.Takes v (f.torn Ledger.beside v c) f')
    (takes' : h.Takes v (h.torn Ledger.beside v c) h') : h'.sight v = f'.sight v := by
  have kin := matched.toKin
  have kin' := ((kin.takes (torn_besides c) takes').symm.takes (torn_besides c) takes).symm
  have kept : f'.ledger v = (f.torn Ledger.beside v c).1 := congrArg Prod.fst takes.holds.kept
  have kept' : h'.ledger v = (h.torn Ledger.beside v c).1 := congrArg Prod.fst takes'.holds.kept
  by_cases direct : f.transfer = .direct
  · have direct' := kin.transfer.trans direct
    have unregistered := kin.left.torn_unregistered direct takes
    have unregistered' := kin.right.torn_unregistered direct' takes'
    simp only [Formatter.sight, Ledger.sight, configArgs, takes.transfer, takes'.transfer, direct, direct',
      List.head?_cons, Option.bind_some, unregistered, unregistered', kin'.override, kin'.path]
  · have direct' : h.transfer ≠ .direct := kin.transfer ▸ direct
    have same := matched.sight
    rw [Formatter.sight, Formatter.sight, Ledger.sight_of_ne_direct direct, Ledger.sight_of_ne_direct direct'] at same
    obtain ⟨globals, plugin, -⟩ := Sight.mk.inj same
    have parts : (h.wiped Ledger.beside v).1.globals = (f.wiped Ledger.beside v).1.globals ∧
        (h.wiped Ledger.beside v).1.plugin = (f.wiped Ledger.beside v).1.plugin := by
      rw [wiped_ledger Prod.fst fun _ _ _ _ => rfl, wiped_ledger Prod.fst fun _ _ _ _ => rfl, Plugin.hasExport,
        Plugin.hasExport, kin.guest]
      split
      · exact ⟨rfl, rfl⟩
      · exact ⟨globals, plugin⟩
    rw [Formatter.sight, Formatter.sight, takes.transfer, takes'.transfer, Ledger.sight_of_ne_direct direct,
      Ledger.sight_of_ne_direct direct', kin'.override, kin'.path, kept, kept', torn_of_ne_direct direct,
      torn_of_ne_direct direct']
    cases Json.unwritable? (.object c.globals) with
    | some fault => simp only [parts.1, parts.2]
    | none => simp only [Ledger.call_setGlobals, parts.2]

theorem Matched.applyConfig_error {fault : Json.Unwritable} (matched : Matched react v f h)
    (fits : v.FitsConfig f.transfer c) (unwritable : Json.unwritable? c.record = some fault) :
    ∃ f' h', applyConfig c.globals c.plugin f = (.error (.unwritable fault), f') ∧
      applyConfig c.globals c.plugin h = (.error (.unwritable fault), h') ∧ Matched react v f' h' := by
  have kin := matched.toKin
  obtain ⟨f', run, takes, configured⟩ :=
    Formatter.applyConfig_error kin.left.conducts.heeds configs_subset kin.left.sound fits unwritable
  obtain ⟨h', run', takes', configured'⟩ :=
    Formatter.applyConfig_error kin.right.conducts.heeds configs_subset kin.right.sound (kin.transfer.symm ▸ fits)
      unwritable
  refine ⟨f', h', run, run', ?_⟩
  have kin' := ((kin.takes (torn_besides c) takes').symm.takes (torn_besides c) takes).symm
  exact ⟨kin', configured.trans matched.configured, configured'.trans matched.configured',
    matched.torn_sight takes takes'⟩

theorem ensureConfig_matched (twins : Twins react v f h) :
    ∃ f' h', ensureConfig f = (.ok (), f') ∧ ensureConfig h = (.ok (), h') ∧ Matched react v f' h' := by
  cases twins with
  | matched matched =>
      exact ⟨f, h, ensureConfig_configured matched.configured, ensureConfig_configured matched.configured', matched⟩
  | idle kin idle empty =>
      -- The one hands over the empty configuration now. A question may have made the other do so before.
      rw [ensureConfig_idle idle]
      cases configured' : h.configured with
      | false =>
          rw [ensureConfig_idle configured']
          exact kin.applyConfig_matched (c := .empty) kin.left.initial rfl
      | true =>
          obtain ⟨f', run, takes, configured⟩ :=
            applyConfig_ok (c := .empty) kin.left.conducts.heeds configs_subset kin.left.sound kin.left.initial rfl
          refine ⟨f', h, run, ensureConfig_configured configured', ?_⟩
          exact (kin.symm.takes (taken_besides _) takes).symm.matched configured configured'
            (takes.inForce Prod.fst fun _ _ _ _ => rfl) (empty configured')

end Formatter

/-! ## Questions -/

theorem Ledger.call_query (member : name ∈ queryCalls) (l : Ledger) (args : List Int) (shared : List UInt8) :
    l.call name args shared true = l := by
  simp only [queryCalls, List.mem_cons, List.not_mem_nil, or_false] at member
  rcases member with rfl | rfl | rfl | rfl <;> rfl

theorem Host.receiveFrom_query {p : Plugin σ} (conducts : Conducts react p.guest v transfer)
    (sound : v.sound p.memory p.state) (member : name ∈ queryCalls) (stage : Stage) (patience : Nat)
    (args : List Int) :
    p.Holds v (v.kept p.memory p.state) (receiveFrom stage transfer patience name args p).2 := by
  by_cases exported : p.guest.exports name = some .function
  · obtain ⟨reply, q, run, holds, -⟩ :=
      call_holds conducts.heeds sound stage (List.mem_append_right _ member) exported args
    have kept := holds.kept
    rw [Ledger.beside, Ledger.call_query member] at kept
    rw [receiveFrom, bind_ok run]
    rw [← holds.guest] at conducts
    have stays := receive_stays conducts.carries holds.sound stage patience reply
    exact ⟨stays.guest.trans holds.guest, stays.sound, stays.kept.trans kept⟩
  · rcases call_cases stage name args p with ⟨-, eq⟩ | ⟨present, -⟩
    · rw [receiveFrom, bind_error eq]
      exact ⟨rfl, sound, rfl⟩
    · exact absurd present exported

namespace Formatter

variable {f f' h h' : Formatter σ} {c : Configuration}

theorem Conducted.holds {q : Plugin σ} (conducted : f.Conducted react v)
    (holds : f.plugin.Holds v (v.kept f.plugin.memory f.plugin.state) q) :
    Conducted react v { f with plugin := q } := by
  refine ⟨?_, holds.sound, ?_, conducted.initial⟩
  · rw [holds.guest]
    exact conducted.conducts
  · rw [ledger, holds.kept]
    exact conducted.free

theorem sight_holds {q : Plugin σ} (holds : f.plugin.Holds v (v.kept f.plugin.memory f.plugin.state) q) :
    sight v { f with plugin := q } = f.sight v := by
  rw [sight, ledger, holds.kept]
  rfl

theorem Kin.holds {q : Plugin σ} (kin : Kin react v f h)
    (holds : h.plugin.Holds v (v.kept h.plugin.memory h.plugin.state) q) : Kin react v f { h with plugin := q } where
  left := kin.left
  right := kin.right.holds holds
  guest := holds.guest.trans kin.guest
  transfer := kin.transfer
  patience := kin.patience
  own := (congrArg Prod.snd holds.kept).trans kin.own
  override := (congrArg (fun k => k.1.override) holds.kept).trans kin.override
  path := (congrArg (fun k => k.1.path) holds.kept).trans kin.path

theorem Matched.holds {q : Plugin σ} (matched : Matched react v f h)
    (holds : h.plugin.Holds v (v.kept h.plugin.memory h.plugin.state) q) : Matched react v f { h with plugin := q } where
  toKin := matched.toKin.holds holds
  configured := matched.configured
  configured' := matched.configured'
  sight := (sight_holds holds).trans matched.sight

theorem Matched.symm (matched : Matched react v f h) : Matched react v h f :=
  ⟨matched.toKin.symm, matched.configured', matched.configured, matched.sight.symm⟩

theorem Twins.holds {q : Plugin σ} (twins : Twins react v f h)
    (holds : h.plugin.Holds v (v.kept h.plugin.memory h.plugin.state) q) : Twins react v f { h with plugin := q } := by
  cases twins with
  | matched matched => exact .matched (matched.holds holds)
  | idle kin idle empty =>
      have kept : ledger v { h with plugin := q } = h.ledger v := congrArg Prod.fst holds.kept
      refine .idle (kin.holds holds) idle fun configured => ?_
      rw [kept]
      exact empty configured

theorem Twins.right (twins : Twins react v f h) : h.Conducted react v := by
  cases twins with
  | matched matched => exact matched.right
  | idle kin _ _ => exact kin.right

theorem receiveFrom_twins (member : name ∈ queryCalls) (args : List Int) :
    Keeps (Twins react v f) (receiveFrom .running name args) := by
  intro h twins
  exact twins.holds (Host.receiveFrom_query twins.right.conducts twins.right.sound member .running h.patience args)

theorem ensureConfig_twins : Keeps (Twins react v f) ensureConfig := by
  intro h twins
  cases configured : h.configured with
  | true =>
      rw [ensureConfig_configured configured]
      exact twins
  | false =>
      cases twins with
      | matched matched => exact absurd matched.configured' (by rw [configured]; exact Bool.false_ne_true)
      | idle kin idle _ =>
          obtain ⟨h', run, takes, -⟩ :=
            applyConfig_ok (c := .empty) kin.right.conducts.heeds configs_subset kin.right.sound kin.right.initial rfl
          rw [ensureConfig_idle configured]
          change Twins react v f (applyConfig Configuration.empty.globals Configuration.empty.plugin h).2
          rw [run]
          exact .idle (kin.takes (taken_besides _) takes) idle fun _ => takes.inForce Prod.fst fun _ _ _ _ => rfl

end Formatter

def Operation.isQuery : Operation → Bool
  | .configure _ _ => false
  | .format _ _ _ => false
  | _ => true

namespace Formatter

variable {f f' h h' : Formatter σ} {c : Configuration}

theorem query_twins {operation : Operation} (query : operation.isQuery = true) :
    Keeps (Twins react v f) operation.perform := by
  refine perform_keeps operation ?_ ?_ ensureConfig_twins ?_ ?_
  · rintro globals plugin rfl
    cases query
  · rintro request text override r rfl
    cases query
  · intro name member
    have asks : name ∈ queryCalls := by
      revert name
      decide
    refine .bind ensureConfig_twins fun _ => .get_bind fun _ => .bind (receiveFrom_twins asks _) fun text => ?_
    unfold parseReply
    split
    · exact .pure _
    · exact .throw _
  · intro name member
    refine receiveFrom_twins ?_ []
    revert name
    decide

/-! ## Requests -/

structure Aligned (react : Conduct ρ) (v : View σ (Ledger × ρ)) (f h : Formatter σ) : Prop extends
    Matched react v f h where
  shared : v.shared h.plugin.memory h.plugin.state = v.shared f.plugin.memory f.plugin.state

theorem Matched.stays {p q : Plugin σ} (matched : Matched react v f h) (stays : f.plugin.Stays v p)
    (stays' : h.plugin.Stays v q) : Matched react v { f with plugin := p } { h with plugin := q } :=
  ((matched.holds ⟨stays'.guest, stays'.sound, stays'.kept⟩).symm.holds ⟨stays.guest, stays.sound, stays.kept⟩).symm

theorem Matched.send (matched : Matched react v f h) (stage : Stage) {text : String} (fits : v.Fits text) :
    (∃ e, send stage text f = (.error e, f) ∧ send stage text h = (.error e, h)) ∨
      ∃ f' h', send stage text f = (.ok (), f') ∧ send stage text h = (.ok (), h') ∧ Aligned react v f' h' := by
  cases encoded : Utf8.encodeStrict text with
  | error fault =>
      have fails : ∀ g : Formatter σ, Formatter.send stage text g = (.error (.unencodable fault), g) := by
        intro g
        rw [Formatter.send, get_bind, Host.send, encoded]
        rfl
      exact .inl ⟨_, fails f, fails h⟩
  | ok data =>
      obtain ⟨p, run, stays, shared⟩ := send_ok matched.left.conducts.heeds matched.left.sound stage fits encoded
      obtain ⟨q, run', stays', shared'⟩ := send_ok matched.right.conducts.heeds matched.right.sound stage fits encoded
      exact .inr ⟨_, _, run, run', matched.stays stays stays', shared'.trans shared.symm⟩

theorem Conducted.call {stage : Stage} {reply : Reply} {p : Plugin σ} (conducted : f.Conducted react v)
    (member : name ∈ requestCalls) (run : Host.call stage name args f.plugin = (.ok reply, p)) :
    Conducted react v { f with plugin := p } ∧
      Formatter.sight v { f with plugin := p } = (f.sight v).call name (v.shared f.plugin.memory f.plugin.state) ∧
      (reply, v.shared p.memory p.state, own v { f with plugin := p }) =
        react name ((f.ledger v).sight f.transfer args) (v.shared f.plugin.memory f.plugin.state) (f.own v) := by
  obtain ⟨guest, returned⟩ := Host.call_returns run
  obtain ⟨sound, kept⟩ := conducted.conducts.holds (requestCalls_subset member) conducted.sound returned
  have ledger : Formatter.ledger v { f with plugin := p } =
      (f.ledger v).call name args (v.shared f.plugin.memory f.plugin.state) true := kept
  refine ⟨⟨?_, sound, fun n above => ?_, conducted.initial⟩, ?_,
    conducted.conducts.reacts member conducted.sound returned⟩
  · rw [guest]
    exact conducted.conducts
  · rw [ledger, Ledger.registered_request member]
    exact conducted.free n above
  · rw [Formatter.sight, ledger]
    exact Ledger.sight_call member _ _ _ _ _

theorem Aligned.call (aligned : Aligned react v f h) (member : name ∈ requestCalls) (stage : Stage)
    {args args' : List Int} (seen : (h.ledger v).sight h.transfer args' = (f.ledger v).sight f.transfer args) :
    (∃ e, call stage name args f = (.error e, f) ∧ call stage name args' h = (.error e, h)) ∨
      ∃ reply p q, call stage name args f = (.ok reply, { f with plugin := p }) ∧
        call stage name args' h = (.ok reply, { h with plugin := q }) ∧
        f.plugin.guest.Returns name args f.plugin.memory f.plugin.state reply p.memory p.state ∧
        Aligned react v { f with plugin := p } { h with plugin := q } := by
  obtain ⟨left, right⟩ := And.intro aligned.left aligned.right
  have known := requestCalls_subset member
  by_cases exported : f.plugin.guest.exports name = some .function
  · have exported' : h.plugin.guest.exports name = some .function := by rw [aligned.guest, exported]
    obtain ⟨reply, p, run⟩ := Host.call_completes stage exported (left.conducts.completes known left.sound)
    obtain ⟨reply', q, run'⟩ := Host.call_completes stage exported' (right.conducts.completes known right.sound)
    obtain ⟨guest, returned⟩ := Host.call_returns run
    obtain ⟨guest', -⟩ := Host.call_returns run'
    obtain ⟨left', sight₁, reacts⟩ := left.call member run
    obtain ⟨right', sight₂, reacts'⟩ := right.call member run'
    rw [seen, aligned.shared, aligned.own, ← reacts] at reacts'
    obtain ⟨rfl, shared, own⟩ := by simpa only [Prod.mk.injEq] using reacts'
    have sight : Formatter.sight v { h with plugin := q } = Formatter.sight v { f with plugin := p } := by
      rw [sight₁, sight₂, aligned.sight, aligned.shared]
    have override := congrArg Sight.override sight
    have path := congrArg Sight.path sight
    rw [Formatter.sight, Formatter.sight, Ledger.override_sight, Ledger.override_sight] at override
    rw [Formatter.sight, Formatter.sight, Ledger.path_sight, Ledger.path_sight] at path
    have kin : Kin react v { f with plugin := p } { h with plugin := q } :=
      ⟨left', right', guest'.trans (aligned.guest.trans guest.symm), aligned.transfer, aligned.patience, own, override,
        path⟩
    exact .inr ⟨reply', p, q, host_ok run, host_ok run', returned,
      ⟨⟨kin, aligned.configured, aligned.configured', sight⟩, shared⟩⟩
  · have fails : ∀ {g : Formatter σ} (args : List Int), g.plugin.guest.exports name ≠ some .function →
        Formatter.call stage name args g = (.error (.call stage (.notFunction name)), g) := by
      intro g args missing
      rcases Host.call_cases stage name args g.plugin with ⟨-, eq⟩ | ⟨present, -⟩
      · rw [Formatter.call, host_apply, eq]
      · exact absurd present missing
    exact .inl ⟨_, fails args exported, fails args' (by rw [aligned.guest]; exact exported)⟩

theorem Matched.sight_nil (matched : Matched react v f h) :
    (h.ledger v).sight h.transfer [] = (f.ledger v).sight f.transfer [] := by
  have sight := matched.sight
  rw [Formatter.sight, Formatter.sight, matched.transfer] at sight
  rw [matched.transfer]
  by_cases direct : f.transfer = .direct
  · simp only [direct, Ledger.sight, List.head?_nil, Option.bind_none, matched.override, matched.path]
  · rw [Ledger.sight_of_ne_direct direct, Ledger.sight_of_ne_direct direct] at sight ⊢
    exact sight

theorem log_aligned (message : String) : Mirrors (Aligned react v) (log message) (log message) := by
  intro f h aligned
  have matched := aligned.stays (p := f.plugin.log message) (q := h.plugin.log message) ⟨rfl, aligned.left.sound, rfl⟩
    ⟨rfl, aligned.right.sound, rfl⟩
  exact ⟨rfl, matched, aligned.shared⟩

theorem receiveFrom_aligned (announces : name = "get_formatted_text" ∨ name = "get_error_text") (stage : Stage) :
    Mirrors (Aligned react v) (receiveFrom stage name []) (receiveFrom stage name []) := by
  intro f h aligned
  have member : name ∈ requestCalls := by rcases announces with rfl | rfl <;> simp [requestCalls]
  rw [receiveFrom_eq]
  rcases aligned.call member stage aligned.sight_nil with ⟨e, run, run'⟩ | ⟨reply, p, q, run, run', returned, after⟩
  · rw [bind_error run, bind_error run']
    exact ⟨rfl, aligned⟩
  · obtain rfl := aligned.left.conducts.announces announces aligned.left.sound returned
    obtain ⟨p', received, stays, same⟩ := Host.receive_shared after.left.conducts.carries after.left.conducts.ready
      after.left.sound stage f.patience
    obtain ⟨q', received', stays', same'⟩ := Host.receive_shared after.right.conducts.carries after.right.conducts.ready
      after.right.sound stage h.patience
    rw [bind_ok run, bind_ok run', get_bind, get_bind, host_apply, host_apply]
    have shared : v.shared q.memory q.state = v.shared p.memory p.state := after.shared
    rw [shared] at received' same'
    rw [received, received']
    exact ⟨rfl, after.stays stays stays', same'.trans same.symm⟩

theorem formatReply_aligned (r : FormatRequest) (code : Reply) :
    Mirrors (Aligned react v) (formatReply r code) (formatReply r code) := by
  unfold formatReply
  split
  · exact .bind (log_aligned _) fun _ => .pure _
  split
  · exact .bind (log_aligned _) fun _ => receiveFrom_aligned (.inl rfl) _
  split
  · exact .bind (receiveFrom_aligned (.inr rfl) _) fun _ => .throw _
  · exact .throw _

def Settles {α : Type} (react : Conduct ρ) (v : View σ (Ledger × ρ)) (x : Op σ α) : Prop :=
  ∀ f h, Aligned react v f h → (x f).1 = (x h).1 ∧ Matched react v (x f).2 (x h).2

section

variable {α : Type} {k : Reply → Op σ α}

theorem Aligned.call_bind (aligned : Aligned react v f h) (member : name ∈ requestCalls) (stage : Stage)
    {args args' : List Int} (seen : (h.ledger v).sight h.transfer args' = (f.ledger v).sight f.transfer args)
    (rest : ∀ reply, Settles react v (k reply)) :
    ((Formatter.call stage name args >>= k) f).1 = ((Formatter.call stage name args' >>= k) h).1 ∧
      Matched react v ((Formatter.call stage name args >>= k) f).2 ((Formatter.call stage name args' >>= k) h).2 := by
  rcases aligned.call member stage seen with ⟨e, run, run'⟩ | ⟨reply, p, q, run, run', -, after⟩
  · rw [bind_error run, bind_error run']
    exact ⟨rfl, aligned.toMatched⟩
  · rw [bind_ok run, bind_ok run']
    exact rest reply _ _ after

theorem send_mirrors (stage : Stage) {text : String} (fits : v.Fits text) {k : Unit → Op σ α}
    (rest : Settles react v (k ())) :
    Mirrors (Matched react v) (send stage text >>= k) (send stage text >>= k) := by
  -- Sending starts anew, so what follows it finds the same on both sides.
  intro f h matched
  rcases matched.send stage fits with ⟨e, run, run'⟩ | ⟨f', h', run, run', aligned⟩
  · rw [bind_error run, bind_error run']
    exact ⟨rfl, matched⟩
  · rw [bind_ok run, bind_ok run']
    exact rest f' h' aligned

end

theorem handOver_mirrors (member : name ∈ requestCalls) (stage : Stage) {value : Value} (fits : v.FitsValue value) :
    Mirrors (Matched react v) (handOver stage value name) (handOver stage value name) := by
  cases writable : Json.unwritable? value with
  | some fault =>
      intro f h matched
      rw [handOver_error writable, handOver_error writable]
      exact ⟨rfl, matched⟩
  | none =>
      rw [handOver, sendValue_eq writable]
      have room : v.Fits (Json.text value) := fits _ (by rw [Json.write, writable])
      refine send_mirrors stage room fun f h aligned => aligned.call_bind member stage aligned.sight_nil ?_
      exact fun _ _ _ after => ⟨rfl, after.toMatched⟩

theorem sendOverride_mirrors {r : FormatRequest} (fits : v.FitsRequest r) :
    Mirrors (Matched react v) (sendOverride r) (sendOverride r) := by
  rw [sendOverride_eq]
  cases given : r.override.isVoid with
  | true => exact .pure _
  | false =>
    refine .get_bind fun f h matched => ?_
    rw [Plugin.hasExport, Plugin.hasExport, matched.guest]
    split
    · exact handOver_mirrors (by simp [requestCalls]) .formatting (fits.override given)
    · exact .throw _

theorem requestText_mirrors {r : FormatRequest} (fits : v.FitsRequest r) :
    Mirrors (Matched react v) (requestText r) (requestText r) := by
  have setPath : "set_file_path" ∈ requestCalls := by simp [requestCalls]
  have format : "format" ∈ requestCalls := by simp [requestCalls]
  refine .bind (sendOverride_mirrors fits) fun _ => send_mirrors _ fits.path fun f h aligned => ?_
  refine aligned.call_bind setPath _ aligned.sight_nil fun _ f h aligned => ?_
  refine send_mirrors .formatting fits.text (fun f h aligned => ?_) f h aligned.toMatched
  refine aligned.call_bind format _ aligned.sight fun code f h aligned => ?_
  obtain ⟨same, after⟩ := formatReply_aligned r code f h aligned
  exact ⟨same, after.toMatched⟩

theorem ensured_mirrors {α : Type} {k : Unit → Op σ α} (rest : Mirrors (Matched react v) (k ()) (k ())) :
    Mirrors (Twins react v) (ensureConfig >>= k) (ensureConfig >>= k) := by
  intro f h twins
  obtain ⟨f', h', ensured, ensured', matched⟩ := ensureConfig_matched twins
  rw [bind_ok ensured, bind_ok ensured']
  obtain ⟨same, after⟩ := rest f' h' matched
  exact ⟨same, .matched after⟩

theorem format_mirrors {request : Request} {text override : Value}
    (fits : (Operation.format request text override).Fits v transfer) :
    Mirrors (Twins react v) (Formatter.format request text override) (Formatter.format request text override) := by
  unfold Formatter.format
  match coerced : request.coerce text override with
  | .error e => exact .throw e
  | .ok (.other value) => exact ensured_mirrors (.throw _)
  | .ok (.request r) => exact ensured_mirrors (requestText_mirrors (fits r coerced))

end Formatter

/-! ## Runs -/

/-- A configuration that is found to be unwritable only after the old one was given up. -/
def Operation.Tears : Operation → Prop
  | .configure globals plugin => ∃ c : Configuration, globals.toFields = .ok c.globals ∧
      plugin.toMapping = .ok c.plugin ∧ Json.unwritable? c.record ≠ none
  | _ => False

namespace Formatter

variable {f f' h h' : Formatter σ}

theorem Twins.kin (twins : Twins react v f h) : Kin react v f h := by
  cases twins with
  | matched matched => exact matched.toKin
  | idle kin _ _ => exact kin

theorem Twins.matched_of_configured (twins : Twins react v f h) (configured : f.configured = true) :
    Matched react v f h := by
  cases twins with
  | matched matched => exact matched
  | idle _ idle _ => exact absurd configured (by rw [idle]; exact Bool.false_ne_true)

theorem setConfig_twins {globals : GlobalArg} {plugin : Value} (twins : Twins react v f h)
    (fits : (Operation.configure globals plugin).Fits v f.transfer)
    (safe : (Operation.configure globals plugin).Tears → f.configured = true) :
    (setConfig globals plugin f).1 = (setConfig globals plugin h).1 ∧
      Twins react v (setConfig globals plugin f).2 (setConfig globals plugin h).2 := by
  unfold setConfig
  cases readGlobals : globals.toFields with
  | error fault => exact ⟨rfl, twins⟩
  | ok globalFields =>
      cases readPlugin : plugin.toMapping with
      | error fault => exact ⟨rfl, twins⟩
      | ok pluginFields =>
          let c : Configuration := ⟨globalFields, pluginFields⟩
          have room : v.FitsConfig f.transfer c := fits c readGlobals readPlugin
          change (applyConfig c.globals c.plugin f).1 = (applyConfig c.globals c.plugin h).1 ∧
            Twins react v (applyConfig c.globals c.plugin f).2 (applyConfig c.globals c.plugin h).2
          cases unwritable : Json.unwritable? c.record with
          | none =>
              obtain ⟨f', h', run, run', matched⟩ := twins.kin.applyConfig_matched room unwritable
              rw [run, run']
              exact ⟨rfl, .matched matched⟩
          | some fault =>
              -- Both are left with the same part of it, but only because both went on from a configuration.
              have configured := safe ⟨c, readGlobals, readPlugin, by rw [unwritable]; exact Option.some_ne_none _⟩
              obtain ⟨f', h', run, run', matched⟩ :=
                (twins.matched_of_configured configured).applyConfig_error room unwritable
              rw [run, run']
              exact ⟨rfl, .matched matched⟩

theorem perform_twins {operation : Operation} (twins : Twins react v f h) (other : operation.isQuery = false)
    (fits : operation.Fits v f.transfer) (safe : operation.Tears → f.configured = true) :
    (operation.perform f).1 = (operation.perform h).1 ∧ Twins react v (operation.perform f).2 (operation.perform h).2 := by
  cases operation with
  | configure globals plugin =>
      obtain ⟨same, after⟩ := setConfig_twins twins fits safe
      simp only [Operation.perform, bind_pure_fst, bind_pure_snd]
      exact ⟨congrArg _ same, after⟩
  | format request text override =>
      exact Mirrors.bind (format_mirrors fits) (fun _ => .pure _) f h twins
  | resolve => cases other
  | diagnose => cases other
  | inform => cases other
  | license => cases other

theorem history_cons (operation : Operation) (rest : List Operation) (f : Formatter σ) :
    f.history (operation :: rest) = (operation, (operation.perform f).1) :: (operation.perform f).2.history rest := rfl

theorem run_twins {operations : List Operation} (twins : Twins react v f h)
    (fits : ∀ o ∈ operations, o.Fits v f.transfer)
    (safe : ∀ before operation after, (operations.filter fun o => !o.isQuery) = before ++ operation :: after →
      operation.Tears → (run before f).2.configured = true) :
    ((h.history operations).filter fun step => !step.1.isQuery) = f.history (operations.filter fun o => !o.isQuery) := by
  induction operations generalizing f h with
  | nil => rfl
  | cons operation rest ih =>
      obtain ⟨now, later⟩ := List.forall_mem_cons.mp fits
      rw [history_cons]
      cases query : operation.isQuery with
      | true =>
          -- Only the formatter that is asked moves.
          rw [List.filter_cons_of_neg (by simp [query])] at safe ⊢
          rw [List.filter_cons_of_neg (by simp [query])]
          exact ih (query_twins query h twins) later safe
      | false =>
          rw [List.filter_cons_of_pos (by simp [query])] at safe ⊢
          rw [List.filter_cons_of_pos (by simp [query]), history_cons]
          obtain ⟨same, after⟩ := perform_twins twins query now (safe [] operation _ rfl)
          rw [same, ih after (by rwa [perform_transfer]) fun before other rest split =>
            safe (operation :: before) other rest (by rw [split]; rfl)]

/-! ## Loading -/

structure Hosted (react : Conduct ρ) (v : View σ (Ledger × ρ)) (engine : Engine σ) (patience : Nat)
    (bytes : List UInt8) (f : Formatter σ) : Prop where
  loaded : (load engine patience bytes).1 = .ok f
  started : ∀ p, Load.compile engine bytes = .ok p →
    Conducts react p.guest v f.transfer ∧ v.sound p.memory p.state ∧ (v.kept p.memory p.state).1 = .empty
  initial : v.FitsConfig f.transfer .empty

theorem Hosted.twins {engine : Engine σ} {patience : Nat} {bytes : List UInt8}
    (hosted : f.Hosted react v engine patience bytes) : Twins react v f f := by
  have keeps : ∀ name ∈ Load.calls, Keeps (fun p : Plugin σ => Conducts react p.guest v f.transfer ∧
      v.sound p.memory p.state ∧ (v.kept p.memory p.state).1 = .empty) (Host.call .running name []) := by
    rintro name member p ⟨conducts, sound, kept⟩
    have known := Load.calls_subset member
    rcases Host.call_cases .running name [] p with ⟨-, eq⟩ | ⟨exported, -⟩
    · rw [eq]
      exact ⟨conducts, sound, kept⟩
    · obtain ⟨reply, q, run⟩ := Host.call_completes .running exported (conducts.completes known sound)
      obtain ⟨guest, returned⟩ := Host.call_returns run
      obtain ⟨after, ledger⟩ := conducts.holds known sound returned
      rw [run]
      refine ⟨guest ▸ conducts, after, ?_⟩
      rw [ledger, kept]
      simp only [Load.calls, List.mem_cons, List.not_mem_nil, or_false] at member
      rcases member with rfl | rfl | rfl <;> rfl
  obtain ⟨conducts, sound, kept⟩ := load_keeps hosted.loaded hosted.started keeps fun _ _ holds => holds
  obtain ⟨-, -, -, -, fresh, -⟩ := load_ok hosted.loaded
  have conducted : f.Conducted react v := ⟨conducts, sound, fun n _ => by rw [ledger, kept]; rfl, hosted.initial⟩
  refine .idle ⟨conducted, conducted, rfl, rfl, rfl, rfl, rfl, rfl⟩ fresh fun configured => ?_
  rw [fresh] at configured
  cases configured

end Formatter

/-! ## A plugin with a conduct -/

namespace Reference

def meant (s : Sight) : Option (List UInt8) :=
  s.registered.or (s.globals.bind fun globals => s.plugin.map fun plugin => join globals plugin)

def conduct (rule : Rule) : Conduct (List UInt8) := fun name s shared out =>
  match name with
  | "format" =>
    let (code, prepared) := rule (meant s) s.override (s.path.getD []) shared
    (.int code, shared, prepared)
  | "get_formatted_text" => (.int out.length, out, out)
  | "get_error_text" => (.int out.length, out, out)
  | _ => (.nothing, shared, out)

theorem meant_sight (transfer : Transfer) (l : Ledger) (args : List Int) :
    meant (l.sight transfer args) = configuration? transfer l args := by
  cases transfer with
  | direct => exact Option.or_none
  | buffered size positive => rfl
  | fractional x => rfl

variable {rule : Rule} {transfer : Transfer} {name : String} {args : List Int} {m m' : Memory} {s s' : State}
  {reply : Reply}

theorem reacts (member : name ∈ requestCalls) (sound : (view transfer).sound m s)
    (returned : (guest rule transfer).Returns name args m s reply m' s') :
    (reply, shared transfer m' s', s'.out) =
      conduct rule name (s.ledger.sight transfer args) (shared transfer m s) s.out := by
  by_cases announces : name = "get_formatted_text" ∨ name = "get_error_text"
  · obtain ⟨rfl, prepared, kept⟩ := shares announces sound returned
    rw [prepared, kept]
    rcases announces with rfl | rfl <;> rfl
  · rw [Guest.Returns, call_of_hostCalls (requestCalls_subset member)] at returned
    obtain ⟨same, rfl, rfl⟩ := returned
    simp only [requestCalls, List.mem_cons, List.not_mem_nil, or_false] at member
    rcases member with rfl | rfl | rfl | other
    · cases same
      cases transfer <;> rfl
    · cases same
      cases transfer <;> rfl
    · cases same
      simp only [conduct, meant_sight, Ledger.override_sight, Ledger.path_sight]
      cases transfer <;> rfl
    · exact absurd other announces

theorem conducts (whole : Whole transfer) :
    Conducts (conduct rule) (guest rule transfer) (viewOf Prod.mk transfer) transfer where
  carries := carries_viewOf Prod.mk whole
  ready := ready_viewOf Prod.mk whole
  exported name member := by
    cases transfer <;> simp only [Transfer.takers, List.mem_cons, List.not_mem_nil, or_false] at member <;>
      rcases member with rfl | rfl <;> rfl
  resettable _ := rfl
  completes member sound := by
    rw [Guest.Completes, call_of_hostCalls member]
    exact (serve_holds member sound).1
  holds := holds
  leaves {name args m s reply m' s'} member _ returned := by
    rw [Guest.Returns, call_of_hostCalls (asides_subset member)] at returned
    obtain ⟨-, -, rfl⟩ := returned
    simp only [Formatter.configCalls, queryCalls, List.cons_append, List.nil_append, List.mem_cons, List.not_mem_nil,
      or_false] at member
    rcases member with rfl | rfl | rfl | rfl | rfl | rfl | rfl | rfl | rfl <;> rfl
  reacts := reacts
  announces announced sound returned := by
    obtain ⟨rfl, prepared, -⟩ := shares announced sound returned
    exact congrArg (fun data => Reply.int (List.length data)) prepared.symm

end Reference

end PluginKit
