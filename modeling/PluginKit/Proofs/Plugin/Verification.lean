import PluginKit.Plugin.Verify
import PluginKit.Proofs.Plugin.Queries

/-!
Verifying a module that was loaded twice. Only one of the two formatters is asked about its plugin, and still both
format alike.
-/

namespace PluginKit

variable {σ ρ : Type}

open Activity Abi Formatter

def VerificationCase.requests (case : VerificationCase) : List Operation :=
  [.format (.path case.path) (.text case.text) .null,
    .format (.value (.record [("filePath", .text case.path), ("fileText", .text case.text)])) .null .null]

namespace Verify

/-! ## One formatter by itself -/

def paired (positional structured : String) : List (String × String) :=
  [("buffer:positional", positional), ("buffer:structured", structured),
    ("path:positional", positional), ("path:structured", structured)]

def judge (case : VerificationCase) : Except PluginError (String × String) → Except VerifyError CaseResult
  | .error e => .error (.plugin e)
  | .ok (positional, structured) =>
    let result : CaseResult := ⟨case, paired positional structured⟩
    if result.passed then .ok result else .error (.unexpectedOutputs case result.mismatched)

def outputs (case : VerificationCase) : Op σ (String × String) := do
  let first ← positional case
  let second ← structured case
  pure (first, second)

def judgeAll : List VerificationCase → Formatter σ → Except VerifyError (List CaseResult)
  | [], _ => .ok []
  | case :: rest, f => do
    let result ← judge case (outputs case f).1
    return result :: (← judgeAll rest (outputs case f).2)

/-- What a formatter gives in both places, if its plugin is not asked about itself before. -/
def alone (cases : List VerificationCase) (f : Formatter σ) : Except VerifyError VerificationReport := do
  let info ← (info f).1.mapError .plugin
  let results ← judgeAll cases f
  return ⟨f.schema, info.name, info.version, results⟩

/-! ## Two formatters -/

variable {react : Conduct ρ} {v : View σ (Ledger × ρ)} {f h : Formatter σ} {pair : Pair σ}

theorem clear_buffer (twins : Twins react v f h) : Twins react v f (clear h) :=
  twins.holds ⟨rfl, twins.right.sound, rfl⟩

theorem clear_path (twins : Twins react v f h) : Twins react v (clear f) h := by
  have cleared : Kin react v h (clear f) := twins.kin.symm.holds ⟨rfl, twins.kin.left.sound, rfl⟩
  have kin := cleared.symm
  cases twins with
  | matched matched => exact .matched ⟨kin, matched.configured, matched.configured', matched.sight⟩
  | idle _ idle empty => exact .idle kin idle empty

section

variable {α : Type} {op : Op σ α} {a : α} {e : PluginError}

theorem onBuffer_ok (run : op pair.buffer = (.ok a, h)) (log : List Log.Record) :
    onBuffer op (pair, log) = (.ok a, ({ pair with buffer := clear h }, log ++ h.plugin.journal)) := by
  simp only [onBuffer, run]
  rfl

theorem onBuffer_error (run : op pair.buffer = (.error e, h)) (log : List Log.Record) :
    onBuffer op (pair, log) = (.error (.plugin e), ({ pair with buffer := clear h }, log ++ h.plugin.journal)) := by
  simp only [onBuffer, run]
  rfl

theorem onPath_ok (run : op pair.path = (.ok a, f)) (log : List Log.Record) :
    onPath op (pair, log) = (.ok a, ({ pair with path := clear f }, log ++ f.plugin.journal)) := by
  simp only [onPath, run]
  rfl

end

theorem fits_requests (react : Conduct ρ) {case : VerificationCase} {transfer : Transfer}
    (fits : ∀ o ∈ case.requests, o.Fits v transfer) :
    Mirrors (Twins react v) (positional case) (positional case) ∧
      Mirrors (Twins react v) (structured case) (structured case) := by
  simp only [VerificationCase.requests, List.forall_mem_cons] at fits
  exact ⟨format_mirrors fits.1, format_mirrors fits.2.1⟩

theorem runCase_cases {case : VerificationCase} {transfer : Transfer} (twins : Twins react v pair.path pair.buffer)
    (unasked : Twins react v f pair.buffer) (fits : ∀ o ∈ case.requests, o.Fits v transfer) (log : List Log.Record) :
    (∃ e st, runCase case (pair, log) = (.error e, st) ∧ judge case (outputs case f).1 = .error e) ∨
      ∃ result pair' log', runCase case (pair, log) = (.ok result, (pair', log')) ∧
        judge case (outputs case f).1 = .ok result ∧ Twins react v pair'.path pair'.buffer ∧
        Twins react v (outputs case f).2 pair'.buffer := by
  obtain ⟨h, p⟩ := pair
  obtain ⟨positionals, structureds⟩ := fits_requests react fits
  unfold runCase outputs
  rcases run_cases (positional case) h with ⟨first, h₁, run₁⟩ | ⟨e, h₁, run₁⟩
  · obtain ⟨f₁, alone₁, unasked₁⟩ := positionals.ok unasked run₁
    rw [bind_ok (onBuffer_ok run₁ log), bind_ok alone₁]
    rcases run_cases (structured case) (clear h₁) with ⟨second, h₂, run₂⟩ | ⟨e, h₂, run₂⟩
    · -- The other two follow, request by request.
      obtain ⟨f₂, alone₂, unasked₂⟩ := structureds.ok (clear_buffer unasked₁) run₂
      obtain ⟨p₁, ran₁, twins₁⟩ : ∃ p₁, positional case p = (.ok first, p₁) ∧ Twins react v p₁ h₁ :=
        positionals.ok twins run₁
      obtain ⟨p₂, ran₂, twins₂⟩ : ∃ p₂, structured case (clear p₁) = (.ok second, p₂) ∧ Twins react v p₂ h₂ :=
        structureds.ok (clear_path (clear_buffer twins₁)) run₂
      rw [bind_ok (onBuffer_ok run₂ _), bind_ok (onPath_ok ran₁ _), bind_ok (onPath_ok ran₂ _), bind_ok alone₂]
      dsimp only
      split
      · rename_i passed
        exact .inr ⟨_, _, _, rfl, if_pos passed, clear_path (clear_buffer twins₂), clear_buffer unasked₂⟩
      · rename_i failed
        exact .inl ⟨_, _, rfl, if_neg failed⟩
    · obtain ⟨f₂, alone₂, -⟩ := structureds.error (clear_buffer unasked₁) run₂
      exact .inl ⟨_, _, bind_error (onBuffer_error run₂ _), by rw [bind_error alone₂]; rfl⟩
  · obtain ⟨f₁, alone₁, -⟩ := positionals.error unasked run₁
    exact .inl ⟨_, _, bind_error (onBuffer_error run₁ log), by rw [bind_error alone₁]; rfl⟩

theorem runCases_cases {cases : List VerificationCase} {transfer : Transfer}
    (twins : Twins react v pair.path pair.buffer) (unasked : Twins react v f pair.buffer)
    (fits : ∀ case ∈ cases, ∀ o ∈ case.requests, o.Fits v transfer) (log : List Log.Record) :
    (runCases cases (pair, log)).1 = judgeAll cases f := by
  induction cases generalizing pair f log with
  | nil => rfl
  | cons case rest ih =>
      obtain ⟨now, later⟩ := List.forall_mem_cons.mp fits
      unfold runCases judgeAll
      rcases runCase_cases twins unasked now log with ⟨e, st, run, judged⟩ |
        ⟨result, pair', log', run, judged, twins', unasked'⟩
      · rw [bind_error run, judged]
        rfl
      · rw [bind_ok run, judged, bind_pure_fst, ih twins' unasked' later log']
        rfl

theorem info_twins : Keeps (Twins react v f) info := by
  intro h twins
  have asked : Keeps (Twins react v f) Operation.inform.perform := query_twins rfl
  have after := asked h twins
  rwa [Operation.perform, bind_pure_snd] at after

theorem runPair_fst {cases : List VerificationCase} {transfer : Transfer} (twins : Twins react v f f)
    (fits : ∀ case ∈ cases, ∀ o ∈ case.requests, o.Fits v transfer) (log : List Log.Record) :
    (runPair cases (⟨f, f⟩, log)).1 = alone cases f := by
  have asked := info_twins f twins
  rw [runPair, get_bind, alone]
  dsimp only
  rw [if_neg (not_not.mpr rfl)]
  change ((onBuffer info >>= _) _).1 = _
  rcases run_cases info f with ⟨found, h, run⟩ | ⟨e, h, run⟩
  · rw [run] at asked
    let pair : Pair σ := ⟨clear h, f⟩
    have still : Twins react v pair.path pair.buffer := clear_buffer asked
    rw [bind_ok (onBuffer_ok run log), bind_pure_fst, runCases_cases still still fits, run]
    rfl
  · rw [bind_error (onBuffer_error run log), run]
    rfl

theorem loadSource_ok {engine : Engine σ} {patience : Nat} {files : Files} {source : ModuleSource} {bytes : List UInt8}
    (resolved : source.resolve files = .ok bytes) (loaded : (load engine patience bytes).1 = .ok f) :
    (loadSource engine patience files source).1 = .ok f := by
  rw [loadSource, resolved]
  exact congrArg (Except.mapError LoadError.plugin) loaded

theorem plugin_fst {loaded path : Formatter σ} {engine : Engine σ} {patience : Nat} {files : Files}
    {data : List UInt8} {file : Path} (fromBuffer : (loadSource engine patience files (.buffer data)).1 = .ok loaded)
    (fromPath : (loadSource engine patience files (.path file)).1 = .ok path) (cases : List VerificationCase) :
    ∃ log, (plugin engine patience files data file cases).1 = (runPair cases (⟨clear loaded, clear path⟩, log)).1 := by
  unfold plugin
  split
  · rename_i eq
    rw [eq] at fromBuffer
    cases fromBuffer
  rename_i eq
  rw [eq] at fromBuffer
  cases fromBuffer
  split
  · rename_i eq
    rw [eq] at fromPath
    cases fromPath
  rename_i eq
  rw [eq] at fromPath
  cases fromPath
  exact ⟨_, rfl⟩

theorem plugin_alone {engine : Engine σ} {patience : Nat} {bytes : List UInt8} {files : Files} {path : Path}
    {cases : List VerificationCase} (hosted : f.Hosted react v engine patience bytes)
    (held : (ModuleSource.path path).resolve files = .ok bytes)
    (fits : ∀ case ∈ cases, ∀ o ∈ case.requests, o.Fits v f.transfer) :
    (plugin engine patience files bytes path cases).1 = alone cases (clear f) := by
  have fromBuffer := loadSource_ok (rfl : (ModuleSource.buffer bytes).resolve files = .ok bytes) hosted.loaded
  have fromPath := loadSource_ok held hosted.loaded
  obtain ⟨log, outcome⟩ := plugin_fst fromBuffer fromPath cases
  rw [outcome]
  exact runPair_fst (clear_path (clear_buffer hosted.twins)) fits log

end Verify

namespace Formatter

variable {react : Conduct ρ} {v : View σ (Ledger × ρ)} {f h : Formatter σ}

/-! ## One request -/

theorem Conducted.deliver {name text : String} (conducted : f.Conducted react v) (member : name ∈ requestCalls)
    (exported : f.plugin.guest.exports name = some .function) (args : List Int) (fits : v.Fits (Text.held text)) :
    ∃ p reply q, send .formatting (Text.held text) f = (.ok (), { f with plugin := p }) ∧
      Formatter.call .formatting name args { f with plugin := p } = (.ok reply, { f with plugin := q }) ∧
      Conducted react v { f with plugin := q } ∧ q.guest = f.plugin.guest ∧
      sight v { f with plugin := q } = (f.sight v).call name (Utf8.bytes text) ∧
      reply = (react name ((f.ledger v).sight f.transfer args) (Utf8.bytes text) (f.own v)).1 := by
  obtain ⟨p, sent, stays, shared⟩ :=
    send_ok conducted.conducts.heeds conducted.sound .formatting fits (Utf8.encodeStrict_held text)
  have holds : f.plugin.Holds v (v.kept f.plugin.memory f.plugin.state) p := ⟨stays.guest, stays.sound, stays.kept⟩
  have between := conducted.holds holds
  rw [← stays.guest] at exported
  have completes : p.guest.Completes name args p.memory p.state :=
    between.conducts.completes (requestCalls_subset member) between.sound
  obtain ⟨reply, q, run⟩ := Host.call_completes .formatting exported completes
  obtain ⟨after, seen, reacts⟩ := between.call member run
  obtain ⟨guest, -⟩ := Host.call_returns run
  have kept : ledger v { f with plugin := p } = f.ledger v := congrArg Prod.fst stays.kept
  have own : Formatter.own v { f with plugin := p } = f.own v := congrArg Prod.snd stays.kept
  rw [shared, sight_holds holds] at seen
  rw [shared, kept, own] at reacts
  exact ⟨p, reply, q, sent, host_ok run, after, guest.trans stays.guest, seen, congrArg Prod.fst reacts⟩

theorem Conducted.request {path text : String} (conducted : f.Conducted react v)
    (exported : ∀ name ∈ requestCalls, f.plugin.guest.exports name = some .function)
    (fits : v.FitsRequest ⟨Text.held path, Text.held text, .null⟩) :
    ∃ q own, requestText ⟨Text.held path, Text.held text, .null⟩ f =
        formatReply ⟨Text.held path, Text.held text, .null⟩
          (react "format" { f.sight v with path := some (Utf8.bytes path) } (Utf8.bytes text) own).1
          { f with plugin := q } := by
  have setPath : "set_file_path" ∈ requestCalls := by simp [requestCalls]
  have format : "format" ∈ requestCalls := by simp [requestCalls]
  obtain ⟨p₁, _, p₂, sent, called, after, guest, seen, -⟩ := conducted.deliver setPath (exported _ setPath) []
    fits.path
  rw [← guest] at exported
  obtain ⟨p₃, code, q, sent', called', -, -, -, reply⟩ := after.deliver format (exported _ format) f.configArgs fits.text
  have sight : Ledger.sight _ _ f.configArgs = (f.sight v).call "set_file_path" (Utf8.bytes path) := seen
  rw [sight] at reply
  subst reply
  refine ⟨q, own v { f with plugin := p₂ }, ?_⟩
  exact (bind_ok sent).trans ((bind_ok called).trans ((bind_ok sent').trans (bind_ok called')))

end Formatter

namespace Reference

def strict : Rule := fun configuration _ _ _ => if configuration.isSome then (0, []) else (3, [])

variable {v : View σ (Ledger × List UInt8)} {f f' : Formatter σ}

theorem hosted_direct : ∃ f : Formatter State, f.transfer = .direct ∧
    (∀ name ∈ requestCalls, f.plugin.guest.exports name = some .function) ∧
    f.Hosted (conduct strict) (viewOf Prod.mk .direct) (engine strict .direct) 0 moduleHeader := by
  refine ⟨_, rfl, ?_, rfl, fun p compiled => ?_, View.fitsConfig_of_roomy (fun _ => trivial) _ _⟩
  · simp only [requestCalls, List.forall_mem_cons]
    exact ⟨rfl, rfl, rfl, rfl, rfl, List.forall_mem_nil _⟩
  · cases compiled
    exact ⟨conducts trivial, sound_start .direct idle, rfl⟩

theorem hosted_buffered : ∃ f : Formatter State, f.schema = 3 ∧
    f.Hosted (conduct echoRule) (viewOf Prod.mk (.buffered 1 Nat.one_pos)) (engine echoRule (.buffered 1 Nat.one_pos)) 0
      moduleHeader := by
  refine ⟨_, rfl, rfl, fun p compiled => ?_, View.fitsConfig_of_roomy (fun _ => trivial) _ _⟩
  cases compiled
  exact ⟨conducts trivial, sound_start (.buffered 1 Nat.one_pos) idle, rfl⟩

section

variable (roomy : ∀ n, v.room n)

include roomy

theorem plain_strict (ensured : ensureConfig f = (.ok (), f'))
    (conducted : f'.Conducted (conduct strict) v)
    (exported : ∀ name ∈ requestCalls, f'.plugin.guest.exports name = some .function) :
    (plain.perform f).1 = if (meant (f'.sight v)).isSome then .ok (.text (Text.held "x"))
      else .error (.unexpectedCode (Text.held "a") (.int 3)) := by
  obtain ⟨q, own, run⟩ := conducted.request exported (View.fitsRequest_of_roomy roomy _)
  have formatted : Formatter.format (.path (Text.held "a")) (.text (Text.held "x")) .null f =
      requestText ⟨Text.held "a", Text.held "x", .null⟩ f' := bind_ok ensured
  have code : (conduct strict "format" { f'.sight v with path := some (Utf8.bytes "a") } (Utf8.bytes "x") own).1 =
      if (meant (f'.sight v)).isSome then .int 0 else .int 3 := by
    change Reply.int (if (meant (f'.sight v)).isSome then ((0, []) : Int × List UInt8) else (3, [])).1 = _
    split <;> rfl
  rw [plain, Operation.perform, bind_pure_fst, formatted, run, code]
  split <;> rfl

theorem misconfigure_takes (conducted : f.Conducted (conduct strict) v) :
    ∃ f', misconfigure.perform f = (.error (.unwritable (.value "set")), f') ∧ f'.configured = f.configured ∧
      f.Takes v (f.torn Ledger.beside v ⟨[], [(.text "a", .set [])]⟩) f' := by
  obtain ⟨f', failed, takes, still⟩ :=
    applyConfig_error conducted.conducts.heeds configs_subset conducted.sound (View.fitsConfig_of_roomy roomy _ _)
      (rfl : Json.unwritable? (Configuration.mk [] [(.text "a", .set [])]).record = some (.value "set"))
  exact ⟨f', bind_error failed, still, takes⟩

theorem plain_after_failure (conducted : f.Conducted (conduct strict) v)
    (exported : ∀ name ∈ requestCalls, f.plugin.guest.exports name = some .function) (fresh : f.configured = false) :
    (plain.perform (misconfigure.perform f).2).1 = .ok (.text (Text.held "x")) := by
  obtain ⟨f₁, performed, still, takes⟩ := misconfigure_takes roomy conducted
  have conducted₁ := conducted.takes (torn_besides _) takes
  obtain ⟨f₂, applied, takes₂, -⟩ :=
    applyConfig_ok (c := .empty) conducted₁.conducts.heeds configs_subset conducted₁.sound conducted₁.initial rfl
  have ensured : ensureConfig f₁ = (.ok (), f₂) := (ensureConfig_idle (still.trans fresh)).trans applied
  have found : meant (f₂.sight v) = some (Json.bytes Configuration.empty.record) :=
    (meant_sight _ _ _).trans (configuration?_of_inForce (takes₂.inForce Prod.fst fun _ _ _ _ => rfl))
  rw [← takes.holds.guest, ← takes₂.holds.guest] at exported
  rw [performed, plain_strict roomy ensured (conducted₁.takes (taken_besides _) takes₂) exported, found]
  rfl

theorem plain_after_loss (conducted : f.Conducted (conduct strict) v)
    (exported : ∀ name ∈ requestCalls, f.plugin.guest.exports name = some .function) (direct : f.transfer = .direct)
    (configured : f.configured = true) :
    (plain.perform (misconfigure.perform f).2).1 = .error (.unexpectedCode (Text.held "a") (.int 3)) := by
  obtain ⟨f₁, performed, still, takes⟩ := misconfigure_takes roomy conducted
  have lost : meant (f₁.sight v) = none := by
    have direct₁ := takes.transfer.trans direct
    rw [sight, meant_sight, configArgs, direct₁]
    exact conducted.torn_unregistered direct takes
  rw [← takes.holds.guest] at exported
  rw [performed, plain_strict roomy (ensureConfig_configured (still.trans configured))
    (conducted.takes (torn_besides _) takes) exported, lost]
  rfl

end

theorem resolve_configured (conducted : f.Conducted (conduct strict) v) (fresh : f.configured = false) :
    (Operation.resolve.perform f).2.configured = true := by
  obtain ⟨f₁, applied, -, configured⟩ :=
    applyConfig_ok (c := .empty) conducted.conducts.heeds configs_subset conducted.sound conducted.initial rfl
  have ensured : ensureConfig f = (.ok (), f₁) := (ensureConfig_idle fresh).trans applied
  have rest : Keeps (fun h : Formatter σ => h.configured = true) (do
      parseReply (← receiveFrom .running "get_resolved_config" (configArgs (← get)))) := by
    refine .get_bind fun _ => .bind (fun _ configured => configured) fun text => ?_
    unfold parseReply
    split
    · exact .pure _
    · exact .throw _
  rw [Operation.perform, bind_pure_snd, resolvedConfig, bind_ok ensured]
  exact rest f₁ configured

theorem misconfigure_tears : misconfigure.Tears :=
  ⟨⟨[], [(.text "a", .set [])]⟩, rfl, rfl, Option.some_ne_none _⟩

theorem not_configure_tears : ¬configure.Tears := by
  rintro ⟨⟨globals, plugin⟩, readGlobals, readPlugin, unwritable⟩
  cases readGlobals
  cases readPlugin
  exact unwritable rfl

end Reference

namespace Formatter

variable {react : Conduct ρ} {v : View σ (Ledger × ρ)} {f h : Formatter σ}

/-- Questions change nothing for configurations and requests: a session without its questions gets the answers that it
gets with them, and a module verifies from memory and from a file as one formatter does that is not asked. A
configuration may fail half-way only where another one was set before. -/
theorem questions_leave_no_trace {engine : Engine σ} {patience : Nat} {bytes : List UInt8}
    (hosted : f.Hosted react v engine patience bytes) :
    (∀ operations : List Operation, (∀ o ∈ operations, o.Fits v f.transfer) →
      (∀ before operation after, (operations.filter fun o => !o.isQuery) = before ++ operation :: after →
        operation.Tears → (run before f).2.configured = true) →
      ((f.history operations).filter fun step => !step.1.isQuery) =
        f.history (operations.filter fun o => !o.isQuery)) ∧
    ∀ (files : Files) (path : Path) (cases : List VerificationCase),
      (ModuleSource.path path).resolve files = .ok bytes →
      (∀ case ∈ cases, ∀ o ∈ case.requests, o.Fits v f.transfer) →
      (Verify.plugin engine patience files bytes path cases).1 = Verify.alone cases (Verify.clear f) :=
  ⟨fun _ fits => run_twins hosted.twins fits, fun _ _ _ held fits => Verify.plugin_alone hosted held fits⟩

theorem questions_around_failed_configuration :
    let operations : List Operation := [.resolve, Reference.configure, .inform, Reference.misconfigure, .license,
      .diagnose, Reference.plain]
    let transfer : Transfer := .buffered 1 Nat.one_pos
    let engine := Reference.engine Reference.echoRule transfer
    let files : Files := ⟨["desk"], [(["desk", "p"], .file moduleHeader)], false⟩
    ∃ f : Formatter Reference.State, f.schema = 3 ∧
      f.Hosted (Reference.conduct Reference.echoRule) (Reference.viewOf Prod.mk transfer) engine 0 moduleHeader ∧
      Reference.misconfigure.Tears ∧ (run [Reference.configure] f).2.configured = true ∧
      ((f.history operations).filter fun step => !step.1.isQuery) =
        f.history [Reference.configure, Reference.misconfigure, Reference.plain] ∧
      (ModuleSource.path ⟨"", ["p"]⟩).resolve files = .ok moduleHeader ∧
      (Verify.plugin engine 0 files moduleHeader ⟨"", ["p"]⟩ Verify.defaultCases).1 =
        Verify.alone Verify.defaultCases (Verify.clear f) := by
  intro operations transfer engine files
  obtain ⟨f, three, hosted⟩ := Reference.hosted_buffered
  have configured : (run [Reference.configure] f).2.configured = true := by
    obtain ⟨f', _, applied, -, matched⟩ := hosted.twins.kin.applyConfig_matched (c := .empty) hosted.initial rfl
    have performed : Reference.configure.perform f = (.ok .done, f') := bind_ok applied
    rw [run_cons, performed]
    exact matched.configured
  have held : (ModuleSource.path ⟨"", ["p"]⟩).resolve files = .ok moduleHeader := by decide
  have roomy : ∀ o : Operation, o.Fits (Reference.viewOf Prod.mk transfer) f.transfer :=
    fun o => o.fits_of_roomy (fun _ => trivial) _
  obtain ⟨sessions, verified⟩ := questions_leave_no_trace hosted
  refine ⟨f, three, hosted, Reference.misconfigure_tears, configured, sessions operations (fun o _ => roomy o) ?_, held,
    verified files _ _ held fun _ _ o _ => roomy o⟩
  intro before operation after split tears
  have listed : [Reference.configure, Reference.misconfigure, Reference.plain] = before ++ operation :: after := split
  match before, listed with
  | [], same =>
      cases same
      exact absurd tears Reference.not_configure_tears
  | [_], same =>
      cases same
      exact configured
  | [_, _], same =>
      cases same
      exact tears.elim
  | _ :: _ :: _ :: _, same =>
      have lengths := congrArg List.length same
      simp only [List.length_append, List.length_cons, List.length_nil] at lengths
      omega

/-- A question before a configuration that fails makes the next request go wrong. -/
theorem question_before_failed_configuration : ∃ f : Formatter Reference.State,
    f.Hosted (Reference.conduct Reference.strict) (Reference.viewOf Prod.mk .direct)
      (Reference.engine Reference.strict .direct) 0 moduleHeader ∧
    ((f.history [.resolve, Reference.misconfigure, Reference.plain]).filter fun step => !step.1.isQuery) ≠
      f.history [Reference.misconfigure, Reference.plain] := by
  obtain ⟨f, direct, exported, hosted⟩ := Reference.hosted_direct
  obtain ⟨-, -, -, -, fresh, -⟩ := load_ok hosted.loaded
  have conducted := hosted.twins.right
  have twins : Twins _ _ f (Operation.resolve.perform f).2 := query_twins rfl f hosted.twins
  have alone := Reference.plain_after_failure (fun _ => trivial) conducted exported fresh
  have asked := Reference.plain_after_loss (fun _ => trivial) twins.right (twins.kin.guest ▸ exported)
    (twins.kin.transfer.trans direct) (Reference.resolve_configured conducted fresh)
  refine ⟨f, hosted, fun same => ?_⟩
  have last : (Reference.plain.perform (Reference.misconfigure.perform (Operation.resolve.perform f).2).2).1 =
      (Reference.plain.perform (Reference.misconfigure.perform f).2).1 :=
    (Prod.mk.inj (List.cons.inj (List.cons.inj same).2).1).2
  rw [asked, alone] at last
  cases last

end Formatter

end PluginKit
