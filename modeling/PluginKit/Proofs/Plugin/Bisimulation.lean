import PluginKit.Proofs.Plugin.Session
import PluginKit.Proofs.Plugin.Transfer

/-!
Plugins that a host cannot tell apart. If a relation between plugins is kept by calling them, by writing into their
memories and by logging, and related plugins show the same, then whatever a host does with related plugins gives the
same results, and leaves related plugins behind.
-/

namespace PluginKit

variable {σ τ α : Type}

/-- Related plugins show the same memory and the same exports, and stay related whatever is done to both of them. -/
structure Plugin.Bisimulation (R : Plugin σ → Plugin τ → Prop) : Prop where
  memory : ∀ {p q}, R p q → q.memory = p.memory
  exports : ∀ {p q}, R p q → q.guest.exports = p.guest.exports
  takes : ∀ {p q}, R p q → q.guest.takes = p.guest.takes
  call : ∀ {p q}, R p q → ∀ name args,
    (p.call name args).1 = (q.call name args).1 ∧ R (p.call name args).2 (q.call name args).2
  write : ∀ {p q}, R p q → ∀ m, R { p with memory := m } { q with memory := m }
  log : ∀ {p q}, R p q → ∀ message, R (p.log message) (q.log message)

structure Formatter.Bisimilar (R : Plugin σ → Plugin τ → Prop) (f : Formatter σ) (h : Formatter τ) : Prop where
  plugin : R f.plugin h.plugin
  transfer : h.transfer = f.transfer
  configured : h.configured = f.configured
  configId : h.configId = f.configId
  patience : h.patience = f.patience

open Activity

/-! ## Invariants -/

namespace Plugin.Bisimulation

variable {I : Plugin σ → Prop}

theorem of_invariant (call : ∀ {p}, I p → ∀ name args, I (p.call name args).2)
    (write : ∀ {p}, I p → ∀ m, I { p with memory := m }) (log : ∀ {p}, I p → ∀ message, I (p.log message)) :
    Bisimulation fun p q => q = p ∧ I p where
  memory := by
    rintro p _ ⟨rfl, -⟩
    rfl
  exports := by
    rintro p _ ⟨rfl, -⟩
    rfl
  takes := by
    rintro p _ ⟨rfl, -⟩
    rfl
  call := by
    rintro p _ ⟨rfl, holds⟩ name args
    exact ⟨rfl, rfl, call holds name args⟩
  write := by
    rintro p _ ⟨rfl, holds⟩ m
    exact ⟨rfl, write holds m⟩
  log := by
    rintro p _ ⟨rfl, holds⟩ message
    exact ⟨rfl, log holds message⟩

theorem keeps {x : Host σ α} (mirrors : Mirrors (fun p q => q = p ∧ I p) x x) : Keeps I x :=
  fun p holds => (mirrors p p ⟨rfl, holds⟩).2.2

theorem keeps_plugin {x : Formatter.Op σ α} (mirrors : Mirrors (Formatter.Bisimilar fun p q => q = p ∧ I p) x x) :
    Keeps (fun f => I f.plugin) x :=
  fun f holds => (mirrors f f ⟨⟨rfl, holds⟩, rfl, rfl, rfl, rfl⟩).2.plugin.2

end Plugin.Bisimulation

variable {R : Plugin σ → Plugin τ → Prop}

/-! ## What hosts do -/

section

variable (same : Plugin.Bisimulation R)

include same

namespace Host

theorem call_bisimilar (stage : Stage) (name : String) (args : List Int) :
    Mirrors R (call stage name args) (call stage name args) := by
  intro p q related
  obtain ⟨result, after⟩ := same.call related name args
  unfold call
  cases run : p.call name args with
  | mk first p' =>
      cases run' : q.call name args with
      | mk second q' =>
          rw [run, run'] at result after
          cases result
          cases first with
          | ok reply => exact ⟨rfl, after⟩
          | error fault => exact ⟨rfl, after⟩

theorem log_bisimilar (message : String) : Mirrors R (log message) (log message) :=
  .modify fun _ _ related => same.log related message

theorem write_bisimilar (pointer : Reply) (data : List UInt8) :
    Mirrors R (write pointer data) (write pointer data) := by
  intro p q related
  unfold write
  rw [same.memory related]
  cases pointer with
  | int address =>
      dsimp only
      cases p.memory.write? address data with
      | none => exact ⟨rfl, related⟩
      | some m => exact ⟨rfl, same.write related m⟩
  | nothing =>
      dsimp only
      cases p.memory.write? 0 data with
      | none => exact ⟨rfl, related⟩
      | some m => exact ⟨rfl, same.write related m⟩
  | float x => exact ⟨rfl, related⟩
  | many values => exact ⟨rfl, related⟩

theorem sendChunk_bisimilar (stage : Stage) (chunk : List UInt8) :
    Mirrors R (sendChunk stage chunk) (sendChunk stage chunk) := by
  refine .bind (call_bisimilar same stage _ _) fun pointer => ?_
  exact .bind (write_bisimilar same pointer _) fun _ => .bind (call_bisimilar same stage _ _) fun _ => .pure ()

theorem sendChunks_bisimilar (stage : Stage) (size : Nat) (positive : 0 < size) (data : List UInt8) :
    Mirrors R (sendChunks stage size positive data) (sendChunks stage size positive data) := by
  induction data using sendChunks.induct size positive with
  | case1 =>
      rw [sendChunks_nil, sendChunks_nil]
      exact .pure ()
  | case2 data filled ih =>
      rw [sendChunks_cons positive filled, sendChunks_cons positive filled]
      exact .bind (sendChunk_bisimilar same stage _) fun _ => ih

theorem sendBytes_bisimilar (stage : Stage) (transfer : Transfer) (data : List UInt8) :
    Mirrors R (sendBytes stage transfer data) (sendBytes stage transfer data) := by
  cases transfer with
  | direct =>
      refine .bind (call_bisimilar same stage _ _) fun pointer => ?_
      split
      · exact .pure ()
      · exact write_bisimilar same pointer data
  | buffered size positive =>
      exact .bind (call_bisimilar same stage _ _) fun _ => sendChunks_bisimilar same stage size positive data
  | fractional size =>
      refine .bind (call_bisimilar same stage _ _) fun _ => ?_
      split
      · exact .pure ()
      · exact .throw _

theorem send_bisimilar (stage : Stage) (transfer : Transfer) (text : String) :
    Mirrors R (send stage transfer text) (send stage transfer text) := by
  unfold send
  cases Utf8.encodeStrict text with
  | ok data => exact sendBytes_bisimilar same stage transfer data
  | error fault => exact .throw _

theorem read_bisimilar (pointer count : Reply) :
    Mirrors R (read pointer count) (read pointer count) := by
  intro p q related
  unfold read
  rw [same.memory related]
  split <;> exact ⟨rfl, related⟩

theorem fetch_bisimilar (stage : Stage) (offset count : Nat) :
    Mirrors R (fetch stage offset count) (fetch stage offset count) :=
  .bind (call_bisimilar same stage _ _) fun _ =>
    .bind (call_bisimilar same stage _ _) fun pointer => read_bisimilar same pointer _

theorem receiveChunks_bisimilar (stage : Stage) (size patience length : Nat) (received : List UInt8) :
    Mirrors R (receiveChunks stage size patience length received)
      (receiveChunks stage size patience length received) := by
  induction patience, received using receiveChunks.induct length with
  | case1 patience received short idle busy =>
      rw [receiveChunks.eq_def, dif_pos short, receiveChunks.eq_def, dif_pos short]
      refine .bind (fetch_bisimilar same stage _ _) fun chunk => ?_
      split
      · cases patience with
        | zero => exact .throw _
        | succ k => exact idle
      · rename_i filled
        exact busy chunk filled
  | case2 patience received done =>
      rw [receiveChunks.eq_def, dif_neg done, receiveChunks.eq_def, dif_neg done]
      exact .pure _

theorem refuseArgument_bisimilar (stage : Stage) (name : String) (count : Nat) (argument : Binary64) :
    Mirrors (α := α) R (refuseArgument stage name count argument) (refuseArgument stage name count argument) := by
  intro p q related
  obtain ⟨result, after⟩ := same.call related name (List.replicate count 0)
  unfold refuseArgument
  rw [same.exports related, same.takes related]
  split
  · exact ⟨rfl, related⟩
  · cases run : p.call name (List.replicate count 0) with
    | mk first p' =>
        cases run' : q.call name (List.replicate count 0) with
        | mk second q' =>
            rw [run, run'] at result after
            cases result
            cases first with
            | ok reply => exact ⟨rfl, after⟩
            | error fault => exact ⟨rfl, after⟩

theorem refuseLength_bisimilar (stage : Stage) (size patience : Nat) (length : Binary64) (received : Nat) :
    Mirrors R (refuseLength stage size patience length received)
      (refuseLength stage size patience length received) := by
  induction patience, received using refuseLength.induct size length with
  | case1 patience received more idle busy =>
      rw [refuseLength.eq_def, dif_pos more, refuseLength.eq_def, dif_pos more]
      refine .bind (fetch_bisimilar same stage _ _) fun chunk => ?_
      split
      · cases patience with
        | zero => exact .throw _
        | succ k => exact idle
      · rename_i filled
        exact busy chunk filled
  | case2 patience received done =>
      rw [refuseLength.eq_def, dif_neg done, refuseLength.eq_def, dif_neg done]
      exact refuseArgument_bisimilar same stage _ _ _

theorem receiveBytes_bisimilar (stage : Stage) (transfer : Transfer) (patience : Nat) (length : Reply) :
    Mirrors R (receiveBytes stage transfer patience length)
      (receiveBytes stage transfer patience length) := by
  cases transfer with
  | direct => exact .bind (call_bisimilar same stage _ _) fun pointer => read_bisimilar same pointer length
  | buffered size positive =>
      cases length with
      | int n => exact receiveChunks_bisimilar same stage size patience _ []
      | float x =>
          rw [receiveBytes, receiveBytes]
          split
          · exact .pure _
          · split
            · exact refuseLength_bisimilar same stage size patience x 0
            · exact .throw _
      | nothing => exact .throw _
      | many values => exact .throw _
  | fractional size =>
      cases length with
      | int n =>
          rw [receiveBytes, receiveBytes]
          split
          · exact .pure _
          · split
            · exact refuseArgument_bisimilar same stage _ _ _
            · exact receiveChunks_bisimilar same stage _ patience _ []
      | float x =>
          rw [receiveBytes, receiveBytes]
          split
          · exact .pure _
          · exact refuseArgument_bisimilar same stage _ _ _
      | nothing => exact .throw _
      | many values => exact .throw _

theorem receive_bisimilar (stage : Stage) (transfer : Transfer) (patience : Nat) (length : Reply) :
    Mirrors R (receive stage transfer patience length)
      (receive stage transfer patience length) := by
  refine .bind (receiveBytes_bisimilar same stage transfer patience length) fun bytes => ?_
  split
  · exact .pure _
  · exact .throw _

theorem receiveFrom_bisimilar (stage : Stage) (transfer : Transfer) (patience : Nat) (name : String)
    (args : List Int) :
    Mirrors R (receiveFrom stage transfer patience name args)
      (receiveFrom stage transfer patience name args) :=
  .bind (call_bisimilar same stage name args) fun length => receive_bisimilar same stage transfer patience length

end Host

namespace Formatter

omit same in
theorem host_bisimilar {x : Host σ α} {y : Host τ α} (mirrors : Mirrors R x y) :
    Mirrors (Bisimilar R) (host x) (host y) := by
  intro f h similar
  obtain ⟨result, after⟩ := mirrors _ _ similar.plugin
  exact ⟨result, after, similar.transfer, similar.configured, similar.configId, similar.patience⟩

theorem call_bisimilar (stage : Stage) (name : String) (args : List Int) :
    Mirrors (Bisimilar R) (call stage name args) (call stage name args) :=
  host_bisimilar (Host.call_bisimilar same stage name args)

theorem log_bisimilar (message : String) : Mirrors (Bisimilar R) (log message) (log message) :=
  host_bisimilar (Host.log_bisimilar same message)

theorem send_bisimilar (stage : Stage) (text : String) :
    Mirrors (Bisimilar R) (send stage text) (send stage text) := by
  refine .get_bind fun f h similar => ?_
  rw [similar.transfer]
  exact host_bisimilar (Host.send_bisimilar same stage f.transfer text)

theorem receiveFrom_bisimilar (stage : Stage) (name : String) (args : List Int) :
    Mirrors (Bisimilar R) (receiveFrom stage name args) (receiveFrom stage name args) := by
  refine .get_bind fun f h similar => ?_
  rw [similar.transfer, similar.patience]
  exact host_bisimilar (Host.receiveFrom_bisimilar same stage f.transfer f.patience name args)

theorem sendValue_bisimilar (stage : Stage) (value : Value) :
    Mirrors (Bisimilar R) (sendValue stage value) (sendValue stage value) := by
  unfold sendValue
  cases Json.write value with
  | ok text => exact send_bisimilar same stage text
  | error fault => exact .throw _

theorem hasExport_bisimilar {f : Formatter σ} {h : Formatter τ} (similar : Bisimilar R f h) (name : String) :
    h.plugin.hasExport name = f.plugin.hasExport name := by
  rw [Plugin.hasExport, Plugin.hasExport, same.exports similar.plugin]

omit same in
theorem configArgs_bisimilar {f : Formatter σ} {h : Formatter τ} (similar : Bisimilar R f h) :
    configArgs h = configArgs f := by
  rw [configArgs, configArgs, similar.transfer, similar.configId]

theorem releaseConfig_bisimilar : Mirrors (Bisimilar R) releaseConfig releaseConfig := by
  refine .get_bind fun f h similar => ?_
  rw [similar.configured, similar.configId]
  split
  · exact .bind (call_bisimilar same _ _ _) fun _ => .pure ()
  · exact .pure ()

theorem resetConfig_bisimilar : Mirrors (Bisimilar R) resetConfig resetConfig := by
  refine .get_bind fun f h similar => ?_
  rw [hasExport_bisimilar same similar]
  split
  · exact .bind (call_bisimilar same _ _ _) fun _ => .pure ()
  · exact .pure ()

theorem handOver_bisimilar (stage : Stage) (value : Value) (name : String) :
    Mirrors (Bisimilar R) (handOver stage value name) (handOver stage value name) :=
  .bind (sendValue_bisimilar same stage value) fun _ => .bind (call_bisimilar same stage name []) fun _ => .pure ()

theorem register_bisimilar (value : Value) : Mirrors (Bisimilar R) (register value) (register value) := by
  refine .bind (sendValue_bisimilar same _ value) fun _ => .get_bind fun f h similar => ?_
  rw [similar.configId]
  exact .bind (call_bisimilar same _ _ _) fun _ => .pure ()

theorem registerConfig_bisimilar (globals plugin : Fields) :
    Mirrors (Bisimilar R) (registerConfig globals plugin) (registerConfig globals plugin) := by
  rw [registerConfig_eq, registerConfig_eq]
  refine .bind (releaseConfig_bisimilar same) fun _ => ?_
  refine .bind (.modify fun f h similar => ?_) fun _ => register_bisimilar same _
  exact ⟨similar.plugin, similar.transfer, similar.configured, congrArg (· + 1) similar.configId, similar.patience⟩

theorem replaceConfig_bisimilar (globals plugin : Fields) :
    Mirrors (Bisimilar R) (replaceConfig globals plugin) (replaceConfig globals plugin) := by
  rw [replaceConfig_eq, replaceConfig_eq]
  refine .bind (resetConfig_bisimilar same) fun _ => ?_
  exact .bind (handOver_bisimilar same _ _ _) fun _ => handOver_bisimilar same _ _ _

theorem applyConfig_bisimilar (globals plugin : Fields) :
    Mirrors (Bisimilar R) (applyConfig globals plugin) (applyConfig globals plugin) := by
  rw [applyConfig_eq, applyConfig_eq]
  refine .bind (.get_bind fun f h similar => ?_) fun _ => .bind (.modify fun f h similar => ?_) fun _ => ?_
  · rw [similar.transfer]
    cases f.transfer with
    | direct => exact registerConfig_bisimilar same globals plugin
    | buffered size positive => exact replaceConfig_bisimilar same globals plugin
    | fractional size => exact replaceConfig_bisimilar same globals plugin
  · exact ⟨similar.plugin, similar.transfer, rfl, similar.configId, similar.patience⟩
  · exact log_bisimilar same _

theorem setConfig_bisimilar (globals : GlobalArg) (plugin : Value) :
    Mirrors (Bisimilar R) (setConfig globals plugin) (setConfig globals plugin) := by
  unfold setConfig
  cases globals.toFields with
  | error fault => exact .throw _
  | ok globalFields =>
      cases plugin.toMapping with
      | error fault => exact .throw _
      | ok pluginFields => exact applyConfig_bisimilar same globalFields pluginFields

theorem ensureConfig_bisimilar : Mirrors (Bisimilar R) ensureConfig ensureConfig := by
  refine .get_bind fun f h similar => ?_
  rw [similar.configured]
  split
  · exact .pure ()
  · exact applyConfig_bisimilar same [] []

omit same in
theorem parseReply_bisimilar (text : String) : Mirrors (Bisimilar R) (parseReply text) (parseReply text) := by
  unfold parseReply
  cases Json.parse text with
  | ok value => exact .pure value
  | error e => exact .throw _

theorem ask_bisimilar (name : String) : Mirrors (Bisimilar R) (ask name) (ask name) := by
  refine .bind (ensureConfig_bisimilar same) fun _ => .get_bind fun f h similar => ?_
  rw [configArgs_bisimilar similar]
  exact .bind (receiveFrom_bisimilar same _ _ _) fun text => parseReply_bisimilar text

omit same in
theorem readFound_bisimilar (value : Value) : Mirrors (Bisimilar R) (readFound value) (readFound value) := by
  unfold readFound
  cases value.iterate? with
  | none => exact .throw _
  | some items =>
      dsimp only
      cases readDiagnostics items with
      | ok found => exact .pure found
      | error faults => exact .throw _

theorem info_bisimilar : Mirrors (Bisimilar R) info info := by
  refine .bind (receiveFrom_bisimilar same _ _ _) fun text => ?_
  cases PluginInfo.ofJson text with
  | valid found => exact .pure found
  | invalid faults => exact .throw _

theorem sendOverride_bisimilar (r : FormatRequest) :
    Mirrors (Bisimilar R) (sendOverride r) (sendOverride r) := by
  rw [sendOverride_eq, sendOverride_eq]
  split
  · exact .pure ()
  · refine .get_bind fun f h similar => ?_
    rw [hasExport_bisimilar same similar]
    split
    · exact handOver_bisimilar same _ _ _
    · exact .throw _

theorem formatReply_bisimilar (r : FormatRequest) (code : Reply) :
    Mirrors (Bisimilar R) (formatReply r code) (formatReply r code) := by
  unfold formatReply
  split
  · exact .bind (log_bisimilar same _) fun _ => .pure _
  split
  · exact .bind (log_bisimilar same _) fun _ => receiveFrom_bisimilar same _ _ _
  split
  · exact .bind (receiveFrom_bisimilar same _ _ _) fun _ => .throw _
  · exact .throw _

theorem formatRequest_bisimilar (r : FormatRequest) :
    Mirrors (Bisimilar R) (formatRequest r) (formatRequest r) := by
  refine .bind (ensureConfig_bisimilar same) fun _ => .bind (sendOverride_bisimilar same r) fun _ => ?_
  refine .bind (send_bisimilar same _ _) fun _ => .bind (call_bisimilar same _ _ _) fun _ => ?_
  refine .bind (send_bisimilar same _ _) fun _ => .get_bind fun f h similar => ?_
  rw [configArgs_bisimilar similar]
  exact .bind (call_bisimilar same _ _ _) fun code => formatReply_bisimilar same r code

theorem format_bisimilar (request : Request) (text override : Value) :
    Mirrors (Bisimilar R) (format request text override) (format request text override) := by
  unfold format
  match request.coerce text override with
  | .error e => exact .throw _
  | .ok (.request r) => exact formatRequest_bisimilar same r
  | .ok (.other v) => exact .bind (ensureConfig_bisimilar same) fun _ => .throw _

theorem perform_bisimilar (operation : Operation) :
    Mirrors (Bisimilar R) operation.perform operation.perform := by
  cases operation with
  | configure globals plugin => exact .bind (setConfig_bisimilar same globals plugin) fun _ => .pure _
  | format request text override => exact .bind (format_bisimilar same request text override) fun _ => .pure _
  | resolve => exact .bind (ask_bisimilar same _) fun _ => .pure _
  | diagnose =>
      rw [Operation.perform, Operation.perform, diagnostics_eq, diagnostics_eq]
      exact .bind (.bind (ask_bisimilar same _) fun value => readFound_bisimilar value) fun _ => .pure _
  | inform => exact .bind (info_bisimilar same) fun _ => .pure _
  | license => exact .bind (receiveFrom_bisimilar same _ _ _) fun _ => .pure _

theorem run_bisimilar (operations : List Operation) {f : Formatter σ} {h : Formatter τ} (similar : Bisimilar R f h) :
    (run operations f).1 = (run operations h).1 ∧ Bisimilar R (run operations f).2 (run operations h).2 := by
  induction operations generalizing f h with
  | nil => exact ⟨rfl, similar⟩
  | cons operation rest ih =>
      obtain ⟨result, after⟩ := perform_bisimilar same operation f h similar
      obtain ⟨results, last⟩ := ih after
      rw [run_cons, run_cons, result, results]
      exact ⟨rfl, last⟩

end Formatter

end

end PluginKit
