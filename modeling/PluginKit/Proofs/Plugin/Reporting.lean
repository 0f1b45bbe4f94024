import PluginKit.Command.Run
import PluginKit.Proofs.Plugin.Handing
import PluginKit.Proofs.Plugin.Silent

/-!
What operations fail with. Calls that do not return are reported for what they are, whatever the plugin does. Its
other mistakes escape: places in memory that do not exist, replies of the wrong kind, bytes that are no text, and
answers that cannot be read. A plugin that makes none of these has all its failures reported.
-/

namespace PluginKit

variable {σ κ : Type}

open Activity Abi

def answering : List String :=
  ["get_formatted_text", "get_error_text", "get_resolved_config", "get_config_diagnostics", "get_plugin_info",
    "get_license_text"]

theorem answering_subset : answering ⊆ hostCalls := by simp [answering, hostCalls]

def Legible (name text : String) : Prop :=
  match name with
  | "get_resolved_config" => ∃ value, Json.parse text = .ok value
  | "get_config_diagnostics" => ∃ value items found, Json.parse text = .ok value ∧ value.iterate? = some items ∧
      Formatter.readDiagnostics items = .ok found
  | _ => True

/-- A plugin may trap and refuse as it likes, but its transfers move bytes, what it points at is in range, and what
it announces can be read. -/
structure Abi.Decent (g : Guest σ) (v : View σ κ) (transfer : Transfer) : Prop where
  carries : Carries g v transfer
  placed : Placed g v transfer
  upholds : Upholds g v
  answers : ∀ {name args m s reply m' s'}, name ∈ answering → v.sound m s →
    g.Returns name args m s reply m' s' →
    ∃ text, reply = .int (v.shared m' s').length ∧ Utf8.decode (v.shared m' s') = .ok text ∧ Legible name text

/-! ## Failures -/

def PluginError.isFormatting : PluginError → Bool
  | .call .formatting _ | .rejected _ _ | .unexpectedCode _ _ | .noOverride _ => true
  | _ => false

namespace Operation

def Proper : Operation → Prop
  | .configure globals plugin =>
    ∃ c : Configuration, globals.toFields = .ok c.globals ∧ plugin.toMapping = .ok c.plugin
  | .format request text override => ∃ r, request.coerce text override = .ok (.request r)
  | _ => True

def reports : Operation → PluginError → Bool
  | .format _ _ _, e => e.isFormatting
  | _, e => Command.isReported e

def Unready (f : Formatter σ) : Operation → PluginError → Prop
  | .format _ _ _, e => f.configured = false ∧ e.IsCall .running
  | _, _ => False

inductive Unsendable : Operation → PluginError → Prop
  | globals {globals : Formatter.GlobalArg} {plugin : Value} {fields : Fields} {fault : Json.Unwritable} :
      globals.toFields = .ok fields → Json.unwritable? (.object fields) = some fault →
      Unsendable (.configure globals plugin) (.unwritable fault)
  | plugin {globals : Formatter.GlobalArg} {plugin : Value} {fields : Fields} {fault : Json.Unwritable} :
      plugin.toMapping = .ok fields → Json.unwritable? (.object fields) = some fault →
      Unsendable (.configure globals plugin) (.unwritable fault)
  | override {request : Request} {text override : Value} {r : FormatRequest} {fault : Json.Unwritable} :
      request.coerce text override = .ok (.request r) → Json.unwritable? r.override = some fault →
      Unsendable (.format request text override) (.unwritable fault)
  | path {request : Request} {text override : Value} {r : FormatRequest} {fault : Utf8.EncodeFault} :
      request.coerce text override = .ok (.request r) → Utf8.encodeStrict r.path = .error fault →
      Unsendable (.format request text override) (.unencodable fault)
  | text {request : Request} {text override : Value} {r : FormatRequest} {fault : Utf8.EncodeFault} :
      request.coerce text override = .ok (.request r) → Utf8.encodeStrict r.text = .error fault →
      Unsendable (.format request text override) (.unencodable fault)

def escapes : Operation → PluginError → Bool
  | .configure _ _, e => e.isUnwritten
  | .format _ _ _, e => e.isUnwritten || e.isUnread
  | .resolve, .badJson _ => true
  | .resolve, e => e.isUnwritten || e.isUnread
  | .diagnose, .badJson _ | .diagnose, .badMapping _ | .diagnose, .invalid _ => true
  | .diagnose, e => e.isUnwritten || e.isUnread
  | .inform, e | .license, e => e.isUnread

def Escapes (W R : PluginError → Prop) (K : String → String → Prop) : Operation → PluginError → Prop
  | .configure _ _, e => W e
  | .format _ _ _, e => W e ∨ R e
  | .resolve, e => W e ∨ R e ∨ (∃ error, e = .badJson error) ∧
      ∃ text, K "get_resolved_config" text ∧ ¬Legible "get_resolved_config" text
  | .diagnose, e => W e ∨ R e ∨
      ((∃ error, e = .badJson error) ∨ (∃ fault, e = .badMapping fault) ∨ ∃ faults, e = .invalid faults) ∧
      ∃ text, K "get_config_diagnostics" text ∧ ¬Legible "get_config_diagnostics" text
  | .inform, e => R e
  | .license, e => R e

end Operation

namespace Formatter

structure Limits (I : Formatter σ → Prop) (W R : PluginError → Prop) (K : String → String → Prop) : Prop where
  marks : ∀ f, I f → I { f with configured := true }
  renumbers : ∀ f, I f → I { f with configId := f.configId + 1 }
  logs : ∀ f message, I f → I { f with plugin := f.plugin.log message }
  calls : ∀ {name}, name ∈ hostCalls → ∀ stage args, Keeps I (call stage name args)
  sends : ∀ stage text, Raises I
    (fun e => e.IsCall stage ∨ W e ∨ ∃ fault, Utf8.encodeStrict text = .error fault ∧ e = .unencodable fault)
    (send stage text)
  answers : ∀ {name}, name ∈ answering → ∀ stage args, Yields I (K name) (fun e => e.IsCall stage ∨ R e)
    (receiveFrom stage name args)

variable {I : Formatter σ → Prop} {W R : PluginError → Prop} {K : String → String → Prop} {name : String}
  {stage : Stage} {value : Value} {globals plugin : Fields}

theorem Limits.call (limits : Limits I W R K) (known : name ∈ hostCalls) (stage : Stage) (args : List Int) :
    Raises I (PluginError.IsCall stage) (call stage name args) :=
  fun f holds => ⟨limits.calls known stage args f holds, fun _ _ => trivial, fun _ failed => Host.call_error failed⟩

theorem Limits.log (limits : Limits I W R K) {E : PluginError → Prop} (message : String) : Raises I E (log message) :=
  fun f holds => ⟨limits.logs f message holds, fun _ _ => trivial, fun _ failed => by cases failed⟩

/-! ## Configuring -/

def ValueFails (W : PluginError → Prop) (stage : Stage) (value : Value) (e : PluginError) : Prop :=
  e.IsCall stage ∨ W e ∨ ∃ fault, Json.unwritable? value = some fault ∧ e = .unwritable fault

theorem Limits.sendValue (limits : Limits I W R K) (stage : Stage) (value : Value) :
    Raises I (ValueFails W stage value) (sendValue stage value) := by
  unfold Formatter.sendValue Json.write
  cases writable : Json.unwritable? value with
  | some fault => exact .throw (.inr (.inr ⟨fault, writable, rfl⟩))
  | none =>
      refine (limits.sends stage (Json.text value)).imp (fun _ => id) fun e failed => ?_
      rcases failed with called | unwritten | ⟨fault, unencodable, -⟩
      · exact .inl called
      · exact .inr (.inl unwritten)
      · rw [Json.encodeStrict_text] at unencodable
        cases unencodable

theorem Limits.handOver (limits : Limits I W R K) (known : name ∈ hostCalls) (stage : Stage) (value : Value) :
    Raises I (ValueFails W stage value) (handOver stage value name) := by
  refine .bind (limits.sendValue stage value) fun _ _ => ?_
  exact .bind ((limits.call known stage []).imp (fun _ => id) fun _ => .inl) fun _ _ => .pure trivial

theorem Limits.register (limits : Limits I W R K) (value : Value) :
    Raises I (ValueFails W .running value) (register value) := by
  refine .bind (limits.sendValue .running value) fun _ _ => .get_bind fun f _ => ?_
  exact .bind ((limits.call (by simp [hostCalls]) .running _).imp (fun _ => id) fun _ => .inl) fun _ _ => .pure trivial

def ConfigFails (W : PluginError → Prop) (globals plugin : Fields) (e : PluginError) : Prop :=
  ValueFails W .running (.object globals) e ∨ ValueFails W .running (.object plugin) e

theorem configFails_of_record {c : Configuration} {e : PluginError} (failed : ValueFails W .running c.record e) :
    ConfigFails W c.globals c.plugin e := by
  rcases failed with called | unwritten | ⟨fault, unwritable, rfl⟩
  · exact .inl (.inl called)
  · exact .inl (.inr (.inl unwritten))
  · rw [unwritable?_record] at unwritable
    cases globals : Json.unwritable? (.object c.globals) with
    | some first =>
        rw [globals] at unwritable
        exact .inl (.inr (.inr ⟨fault, globals.trans unwritable, rfl⟩))
    | none =>
        rw [globals] at unwritable
        exact .inr (.inr (.inr ⟨fault, unwritable, rfl⟩))

theorem Limits.applyConfig (limits : Limits I W R K) (globals plugin : Fields) :
    Raises I (ConfigFails W globals plugin) (applyConfig globals plugin) := by
  have call : ∀ {name}, name ∈ hostCalls → ∀ args,
      Raises I (ConfigFails W globals plugin) (Formatter.call .running name args) :=
    fun known args => (limits.call known .running args).imp (fun _ => id) fun _ called => .inl (.inl called)
  have registers : Raises I (ConfigFails W globals plugin) (registerConfig globals plugin) := by
    rw [registerConfig_eq]
    refine .bind (K := fun _ => True) ?_ fun _ _ => .bind (.modify limits.renumbers) fun _ _ => ?_
    · refine .get_bind fun f _ => ?_
      split
      · exact .bind (call (by simp [hostCalls]) _) fun _ _ => .pure trivial
      · exact .pure trivial
    · exact (limits.register _).imp (fun _ => id) fun _ => configFails_of_record
  have replaces : Raises I (ConfigFails W globals plugin) (replaceConfig globals plugin) := by
    rw [replaceConfig_eq]
    refine .bind (K := fun _ => True) ?_ fun _ _ => ?_
    · refine .get_bind fun f _ => ?_
      split
      · exact .bind (call (by simp [hostCalls]) _) fun _ _ => .pure trivial
      · exact .pure trivial
    · refine .bind ((limits.handOver (by simp [hostCalls]) _ _).imp (fun _ => id) fun _ => .inl) fun _ _ => ?_
      exact (limits.handOver (by simp [hostCalls]) _ _).imp (fun _ => id) fun _ => .inr
  rw [applyConfig_eq]
  refine .bind (K := fun _ => True) (.get_bind fun f _ => ?_) fun _ _ => ?_
  · split
    · exact registers
    · exact replaces
  · exact .bind (.modify limits.marks) fun _ _ => limits.log _

def PartFails (W : PluginError → Prop) (stage : Stage) (e : PluginError) : Prop := e.IsCall stage ∨ W e

theorem Limits.ensureConfig (limits : Limits I W R K) : Raises I (PartFails W .running) ensureConfig := by
  refine .get_bind fun f _ => ?_
  split
  · exact .pure trivial
  · refine (limits.applyConfig [] []).imp (fun _ => id) fun e failed => ?_
    rcases failed with (called | unwritten | ⟨fault, unwritable, -⟩) | (called | unwritten | ⟨fault, unwritable, -⟩)
    · exact .inl called
    · exact .inr unwritten
    · cases unwritable
    · exact .inl called
    · exact .inr unwritten
    · cases unwritable

/-! ## Asking and formatting -/

theorem Limits.ask (limits : Limits I W R K) (member : name ∈ answering) {E : PluginError → Prop}
    (called : ∀ e, e.IsCall .running → E e) (unwritten : ∀ e, W e → E e) (unread : ∀ e, R e → E e)
    (illegible : ∀ text error, K name text → Json.parse text = .error error → E (.badJson error)) :
    Yields I (fun value => ∃ text, K name text ∧ Json.parse text = .ok value) E (ask name) := by
  refine .bind (limits.ensureConfig.imp (fun _ => id) fun e => Or.rec (called e) (unwritten e)) fun _ _ => ?_
  refine .get_bind fun f _ => .bind ((limits.answers member .running _).imp (fun _ => id) fun e =>
    Or.rec (called e) (unread e)) fun text legible => ?_
  unfold parseReply
  cases parsed : Json.parse text with
  | ok value => exact .pure ⟨text, legible, parsed⟩
  | error error => exact .throw (illegible text error legible parsed)

variable {request : Request} {text override : Value} {r : FormatRequest}

def FormatFails (W R : PluginError → Prop) (request : Request) (text override : Value) (e : PluginError) : Prop :=
  e.isFormatting = true ∨ Operation.Unsendable (.format request text override) e ∨ W e ∨ R e

theorem isFormatting_of_isCall {e : PluginError} (called : e.IsCall .formatting) : e.isFormatting = true := by
  obtain ⟨fault, rfl⟩ := called
  rfl

theorem Limits.sendOverride (limits : Limits I W R K) (coerced : request.coerce text override = .ok (.request r)) :
    Raises I (FormatFails W R request text override) (sendOverride r) := by
  rw [sendOverride_eq]
  split
  · exact .pure trivial
  · refine .get_bind fun f _ => ?_
    split
    · refine (limits.handOver (by simp [hostCalls]) .formatting r.override).imp (fun _ => id) fun e failed => ?_
      rcases failed with called | unwritten | ⟨fault, unwritable, rfl⟩
      · exact .inl (isFormatting_of_isCall called)
      · exact .inr (.inr (.inl unwritten))
      · exact .inr (.inl (.override coerced unwritable))
    · exact .throw (.inl rfl)

theorem Limits.formatReply (limits : Limits I W R K) (r : FormatRequest) (code : Reply) :
    Raises I (FormatFails W R request text override) (formatReply r code) := by
  have answer : ∀ {name}, name ∈ answering →
      Raises I (FormatFails W R request text override) (receiveFrom .formatting name []) := by
    intro name member
    refine (limits.answers member .formatting []).imp (fun _ _ => trivial) fun e failed => ?_
    rcases failed with called | unread
    · exact .inl (isFormatting_of_isCall called)
    · exact .inr (.inr (.inr unread))
  unfold Formatter.formatReply
  split
  · exact .bind (limits.log _) fun _ _ => .pure trivial
  split
  · exact .bind (limits.log _) fun _ _ => answer (by simp [answering])
  split
  · exact .bind (answer (by simp [answering])) fun _ _ => .throw (.inl rfl)
  · exact .throw (.inl rfl)

theorem Limits.requestText (limits : Limits I W R K) (coerced : request.coerce text override = .ok (.request r)) :
    Raises I (FormatFails W R request text override) (requestText r) := by
  have call : ∀ {name}, name ∈ hostCalls → ∀ args,
      Raises I (FormatFails W R request text override) (Formatter.call .formatting name args) :=
    fun known args => (limits.call known .formatting args).imp (fun _ => id)
      fun _ called => .inl (isFormatting_of_isCall called)
  have send : ∀ given, (∀ fault, Utf8.encodeStrict given = .error fault →
        Operation.Unsendable (.format request text override) (.unencodable fault)) →
      Raises I (FormatFails W R request text override) (send .formatting given) := by
    intro given unsendable
    refine (limits.sends .formatting given).imp (fun _ => id) fun e failed => ?_
    rcases failed with called | unwritten | ⟨fault, unencodable, rfl⟩
    · exact .inl (isFormatting_of_isCall called)
    · exact .inr (.inr (.inl unwritten))
    · exact .inr (.inl (unsendable fault unencodable))
  refine .bind (limits.sendOverride coerced) fun _ _ => ?_
  refine .bind (send r.path fun _ unencodable => .path coerced unencodable) fun _ _ => ?_
  refine .bind (call (by simp [hostCalls]) _) fun _ _ => ?_
  refine .bind (send r.text fun _ unencodable => .text coerced unencodable) fun _ _ => ?_
  exact .get_bind fun f _ => .bind (call (by simp [hostCalls]) _) fun code _ => limits.formatReply r code

theorem isReported_of_isCall {e : PluginError} (called : e.IsCall stage) : Command.isReported e = true := by
  obtain ⟨fault, rfl⟩ := called
  rfl

theorem Limits.setConfig (limits : Limits I W R K) {globals : GlobalArg} {plugin : Value}
    (proper : (Operation.configure globals plugin).Proper) :
    Raises I (fun e => Command.isReported e = true ∨ Operation.Unsendable (.configure globals plugin) e ∨ W e)
      (setConfig globals plugin) := by
  obtain ⟨c, found, found'⟩ := proper
  rw [Formatter.setConfig, found, found']
  refine (limits.applyConfig c.globals c.plugin).imp (fun _ => id) fun e failed => ?_
  rcases failed with (called | unwritten | ⟨fault, unwritable, rfl⟩) | (called | unwritten | ⟨fault, unwritable, rfl⟩)
  · exact .inl (isReported_of_isCall called)
  · exact .inr (.inr unwritten)
  · exact .inr (.inl (.globals found unwritable))
  · exact .inl (isReported_of_isCall called)
  · exact .inr (.inr unwritten)
  · exact .inr (.inl (.plugin found' unwritable))

theorem Limits.resolvedConfig (limits : Limits I W R K) :
    Raises I (fun e => Command.isReported e = true ∨ Operation.resolve.Escapes W R K e) resolvedConfig := by
  refine (limits.ask (by simp [answering]) (fun _ called => .inl (isReported_of_isCall called))
    (fun _ unwritten => .inr (.inl unwritten)) (fun _ unread => .inr (.inr (.inl unread))) ?_).imp
    (fun _ _ => trivial) fun _ => id
  intro text error legible failed
  refine .inr (.inr (.inr ⟨⟨error, rfl⟩, text, legible, fun ⟨value, parsed⟩ => ?_⟩))
  rw [failed] at parsed
  cases parsed

theorem Limits.diagnostics (limits : Limits I W R K) :
    Raises I (fun e => Command.isReported e = true ∨ Operation.diagnose.Escapes W R K e) diagnostics := by
  rw [diagnostics_eq]
  refine .bind (limits.ask (by simp [answering]) (fun _ called => .inl (isReported_of_isCall called))
    (fun _ unwritten => .inr (.inl unwritten)) (fun _ unread => .inr (.inr (.inl unread))) ?_) fun value found => ?_
  · intro text error legible failed
    refine .inr (.inr (.inr ⟨.inl ⟨error, rfl⟩, text, legible, fun ⟨value, _, _, parsed, _⟩ => ?_⟩))
    rw [failed] at parsed
    cases parsed
  · obtain ⟨text, legible, parsed⟩ := found
    unfold readFound
    split
    · rename_i stuck
      refine .throw (.inr (.inr (.inr ⟨.inr (.inl ⟨_, rfl⟩), text, legible, ?_⟩)))
      rintro ⟨value', items, _, parsed', iterated, _⟩
      cases parsed.symm.trans parsed'
      rw [stuck] at iterated
      cases iterated
    · rename_i items iterated
      split
      · exact .pure trivial
      · rename_i faults unread
        refine .throw (.inr (.inr (.inr ⟨.inr (.inr ⟨_, rfl⟩), text, legible, ?_⟩)))
        rintro ⟨value', items', _, parsed', iterated', read⟩
        cases parsed.symm.trans parsed'
        cases iterated.symm.trans iterated'
        rw [unread] at read
        cases read

theorem Limits.info (limits : Limits I W R K) : Raises I (fun e => Command.isReported e = true ∨ R e) info := by
  refine .bind ((limits.answers (by simp [answering]) .running []).imp (fun _ => id)
    fun _ => Or.imp_left isReported_of_isCall) fun text _ => ?_
  split
  · exact .pure trivial
  · exact .throw (.inl rfl)

theorem Limits.formatRequest (limits : Limits I W R K) (coerced : request.coerce text override = .ok (.request r))
    {f : Formatter σ} (holds : I f) {e : PluginError} (failed : (formatRequest r f).1 = .error e) :
    FormatFails W R request text override e ∨ f.configured = false ∧ PartFails W .running e := by
  rw [formatRequest_eq] at failed
  rcases bind_cases Formatter.ensureConfig (fun _ => Formatter.requestText r) f with
    ⟨_, f', run, eq⟩ | ⟨e', f', run, eq⟩ <;>
    rw [eq] at failed
  · have after := limits.ensureConfig.keeps f holds
    rw [run] at after
    exact .inl ((limits.requestText coerced).fails after failed)
  · cases failed
    cases configured : f.configured with
    | false => exact .inr ⟨rfl, limits.ensureConfig.fails holds (by rw [run])⟩
    | true =>
        rw [Formatter.ensureConfig, get_bind, configured] at run
        cases run

theorem Limits.perform (limits : Limits I W R K) {operation : Operation} (proper : operation.Proper) {f : Formatter σ}
    (holds : I f) {e : PluginError} (failed : (operation.perform f).1 = .error e) :
    operation.reports e = true ∨ operation.Unready f e ∨ operation.Unsendable e ∨ operation.Escapes W R K e := by
  cases operation with
  | configure globals plugin =>
      rcases (limits.setConfig proper).fails holds (bind_pure_error failed) with reported | unsendable | unwritten
      · exact .inl reported
      · exact .inr (.inr (.inl unsendable))
      · exact .inr (.inr (.inr unwritten))
  | format request text override =>
      obtain ⟨r, coerced⟩ := proper
      have failed := bind_pure_error failed
      rw [Formatter.format, coerced] at failed
      rcases limits.formatRequest coerced holds failed with
        (formatting | unsendable | unwritten | unread) | ⟨unconfigured, called | unwritten⟩
      · exact .inl formatting
      · exact .inr (.inr (.inl unsendable))
      · exact .inr (.inr (.inr (.inl unwritten)))
      · exact .inr (.inr (.inr (.inr unread)))
      · exact .inr (.inl ⟨unconfigured, called⟩)
      · exact .inr (.inr (.inr (.inl unwritten)))
  | resolve =>
      rcases limits.resolvedConfig.fails holds (bind_pure_error failed) with reported | escapes
      · exact .inl reported
      · exact .inr (.inr (.inr escapes))
  | diagnose =>
      rcases limits.diagnostics.fails holds (bind_pure_error failed) with reported | escapes
      · exact .inl reported
      · exact .inr (.inr (.inr escapes))
  | inform =>
      rcases limits.info.fails holds (bind_pure_error failed) with reported | unread
      · exact .inl reported
      · exact .inr (.inr (.inr unread))
  | license =>
      rcases (limits.answers (by simp [answering]) .running []).fails holds (bind_pure_error failed) with called | unread
      · exact .inl (isReported_of_isCall called)
      · exact .inr (.inr (.inr unread))

/-! ## Plugins of any kind, and decent ones -/

theorem host_yields {J : Plugin σ → Prop} {α : Type} {L : α → Prop} {E : PluginError → Prop} {x : Host σ α}
    (yields : Yields J L E x) (enters : ∀ f, I f → J f.plugin) (leaves : ∀ f p, I f → J p → I { f with plugin := p }) :
    Yields I L E (host x) := by
  intro f holds
  obtain ⟨after, gives, fails⟩ := yields f.plugin (enters f holds)
  exact ⟨leaves f _ holds after, gives, fails⟩

theorem limits_any : Limits (fun _ : Formatter σ => True) (fun e => e.isUnwritten = true) (fun e => e.isUnread = true)
    fun _ _ => True where
  marks _ _ := trivial
  renumbers _ _ := trivial
  logs _ _ _ := trivial
  calls _ _ _ _ _ := trivial
  sends stage text := by
    refine .get_bind fun f _ => host_yields (J := fun _ => True) ?_ (fun _ _ => trivial) fun _ _ _ _ => trivial
    refine (Host.send_raises (fun _ _ _ => Host.call_raises ?_) (fun _ _ _ => trivial) text).imp (fun _ => id) ?_
    · exact fun _ _ => trivial
    · exact fun e => or_assoc.mp
  answers _ stage args := by
    refine .get_bind fun f _ => host_yields (J := fun _ => True) ?_ (fun _ _ => trivial) fun _ _ _ _ => trivial
    refine .bind (Host.call_receiveFails (Host.call_raises fun _ _ => trivial)) fun length _ => ?_
    exact Host.receive_raises (fun _ _ _ => Host.call_raises fun _ _ => trivial) f.patience length

structure InOrder (g : Guest σ) (v : View σ κ) (transfer : Transfer) (f : Formatter σ) : Prop where
  guest : f.plugin.guest = g
  transfer : f.transfer = transfer
  sound : v.sound f.plugin.memory f.plugin.state

end Formatter

namespace Host

variable {p q : Plugin σ} {v : View σ κ} {transfer : Transfer} {stage : Stage} {name : String} {args : List Int}

theorem call_upheld (upholds : Upholds p.guest v) (known : name ∈ hostCalls) (sound : v.sound p.memory p.state)
    (stage : Stage) (args : List Int) :
    (call stage name args p).2.guest = p.guest ∧
      v.sound (call stage name args p).2.memory (call stage name args p).2.state := by
  rcases call_cases stage name args p with ⟨-, eq⟩ | ⟨-, q, guest, memory, state, ⟨reply, -, eq⟩ | ⟨-, eq⟩⟩ <;> rw [eq]
  · exact ⟨rfl, sound⟩
  all_goals
    refine ⟨guest, ?_⟩
    rw [memory, state]
    exact upholds name known args _ _ sound

theorem send_decent (decent : Decent p.guest v transfer) (sound : v.sound p.memory p.state) (stage : Stage)
    (text : String) :
    p.Stays v (send stage transfer text p).2 ∧ ∀ e, (send stage transfer text p).1 = .error e → e.IsCall stage ∨
      ∃ fault, Utf8.encodeStrict text = .error fault ∧ e = .unencodable fault := by
  obtain ⟨q, stays, ⟨e, run, broken⟩ | ⟨run, -⟩⟩ := send_cases decent.carries sound stage text
  · rw [run]
    refine ⟨stays, fun e' failed => ?_⟩
    cases failed
    cases encoded : Utf8.encodeStrict text with
    | ok data => exact .inl (broken data encoded decent.placed).isCall
    | error fault =>
        rw [send, encoded] at run
        cases run
        exact .inr ⟨fault, rfl, rfl⟩
  · rw [run]
    exact ⟨stays, fun e failed => by cases failed⟩

theorem receiveFrom_decent (decent : Decent p.guest v transfer) (member : name ∈ answering)
    (sound : v.sound p.memory p.state) (stage : Stage) (patience : Nat) (args : List Int) :
    (receiveFrom stage transfer patience name args p).2.guest = p.guest ∧
      v.sound (receiveFrom stage transfer patience name args p).2.memory
        (receiveFrom stage transfer patience name args p).2.state ∧
      (∀ text, (receiveFrom stage transfer patience name args p).1 = .ok text → Legible name text) ∧
      ∀ e, (receiveFrom stage transfer patience name args p).1 = .error e → e.IsCall stage := by
  obtain ⟨guest, after⟩ := call_upheld decent.upholds (answering_subset member) sound stage args
  rcases bind_cases (call stage name args) (receive stage transfer patience) p with
    ⟨reply, q, run, eq⟩ | ⟨e, q, run, eq⟩ <;> rw [run] at guest after <;> rw [receiveFrom, eq]
  · obtain ⟨text, rfl, decoded, legible⟩ := decent.answers member sound (call_returns run).2
    rw [← guest] at decent
    obtain ⟨r, stays, ⟨e, run, broken⟩ | ⟨run, -⟩⟩ := receive_cases decent.carries decent.placed after stage patience
    · rw [run]
      refine ⟨stays.guest.trans guest, stays.sound, fun text ok => ?_, fun e' failed => ?_⟩
      · cases ok
      · cases failed
        exact broken.isCall
    · rw [run, decoded]
      refine ⟨stays.guest.trans guest, stays.sound, fun text ok => ?_, fun e' failed => ?_⟩
      · cases ok
        exact legible
      · cases failed
  · refine ⟨guest, after, fun text ok => ?_, fun e' failed => ?_⟩
    · cases ok
    · cases failed
      exact call_error (by rw [run])

end Host

namespace Formatter

variable {g : Guest σ} {v : View σ κ} {transfer : Transfer}

theorem limits_decent (decent : Decent g v transfer) :
    Limits (InOrder g v transfer) (fun _ => False) (fun _ => False) Legible where
  marks _ holds := ⟨holds.guest, holds.transfer, holds.sound⟩
  renumbers _ holds := ⟨holds.guest, holds.transfer, holds.sound⟩
  logs _ _ holds := ⟨holds.guest, holds.transfer, holds.sound⟩
  calls known stage args f holds := by
    obtain ⟨rfl, rfl, sound⟩ := holds
    obtain ⟨guest, after⟩ := Host.call_upheld decent.upholds known sound stage args
    exact ⟨guest, rfl, after⟩
  sends stage text f holds := by
    obtain ⟨rfl, rfl, sound⟩ := holds
    obtain ⟨stays, fails⟩ := Host.send_decent decent sound stage text
    exact ⟨⟨stays.guest, rfl, stays.sound⟩, fun _ _ => trivial, fun e failed => (fails e failed).imp_right .inr⟩
  answers member stage args f holds := by
    obtain ⟨rfl, rfl, sound⟩ := holds
    obtain ⟨guest, after, gives, fails⟩ := Host.receiveFrom_decent decent member sound stage f.patience args
    exact ⟨⟨guest, rfl, after⟩, gives, fun e failed => .inl (fails e failed)⟩

theorem Limits.setConfig_keeps (limits : Limits I W R K) (globals : GlobalArg) (plugin : Value) :
    Keeps I (Formatter.setConfig globals plugin) := by
  unfold Formatter.setConfig
  split
  · exact .throw _
  · split
    · exact .throw _
    · exact (limits.applyConfig _ _).keeps

theorem Limits.keeps (limits : Limits I W R K) (operation : Operation) : Keeps I operation.perform := by
  refine perform_keeps operation (fun globals plugin _ => limits.setConfig_keeps globals plugin) ?_
    limits.ensureConfig.keeps ?_ ?_
  · intro request text override r _ coerced
    exact .bind limits.ensureConfig.keeps fun _ => (limits.requestText coerced).keeps
  · intro name member
    refine Yields.keeps (limits.ask (E := fun _ => True) ?_ (fun _ _ => trivial) (fun _ _ => trivial)
      (fun _ _ => trivial) fun _ _ _ _ => trivial)
    revert name
    decide
  · intro name member
    refine Yields.keeps (limits.answers ?_ .running [])
    revert name
    decide

theorem escapes_of_any {operation : Operation} {e : PluginError}
    (failed : operation.Escapes (fun e => e.isUnwritten = true) (fun e => e.isUnread = true) (fun _ _ => True) e) :
    operation.escapes e = true := by
  cases operation with
  | configure globals plugin => exact failed
  | format request text override => simpa [Operation.escapes, Operation.Escapes] using failed
  | resolve =>
      rcases failed with unwritten | unread | ⟨⟨error, rfl⟩, -⟩
      · cases e <;> simp_all [Operation.escapes]
      · cases e <;> simp_all [Operation.escapes]
      · rfl
  | diagnose =>
      rcases failed with unwritten | unread | ⟨⟨error, rfl⟩ | ⟨fault, rfl⟩ | ⟨faults, rfl⟩, -⟩
      · cases e <;> simp_all [Operation.escapes]
      · cases e <;> simp_all [Operation.escapes]
      all_goals rfl
  | inform => exact failed
  | license => exact failed

theorem not_escapes_of_decent (operation : Operation) (e : PluginError) :
    ¬operation.Escapes (fun _ => False) (fun _ => False) Legible e := by
  intro failed
  cases operation with
  | configure globals plugin => exact failed
  | format request text override => exact failed.elim id id
  | resolve =>
      obtain ⟨-, text, legible, illegible⟩ := (failed.resolve_left id).resolve_left id
      exact illegible legible
  | diagnose =>
      obtain ⟨-, text, legible, illegible⟩ := (failed.resolve_left id).resolve_left id
      exact illegible legible
  | inform => exact failed
  | license => exact failed

end Formatter

/-! ## A plugin that traps, and one that shares no text -/

namespace Reference

variable {rule : Rule} {transfer : Transfer}

def mute (rule : Rule) (transfer : Transfer) : Guest State :=
  { guest rule transfer with
    call := fun name args m s =>
      if name ∈ answering then ⟨.trapped, m, s, []⟩ else (guest rule transfer).call name args m s }

theorem mute_decent (whole : Whole transfer) : Decent (mute rule transfer) (view transfer) transfer := by
  have same : ∀ name ∈ transfer.calls, (mute rule transfer).call name = (guest rule transfer).call name := by
    intro name member
    funext args m s
    exact if_neg fun announces => not_mem_calls (answering_subset announces) member
  refine ⟨(carries whole).of_calls same, (ready whole).placed.of_calls same, ?_, ?_⟩
  · intro name known args m s sound
    by_cases announces : name ∈ answering
    · simpa [mute, announces] using sound
    · simpa [mute, announces, call_of_hostCalls known] using (serve_holds known sound).2.1
  · intro name args m s reply m' s' announces _ returned
    rw [Guest.Returns] at returned
    simp [mute, announces] at returned

def garbled : Guest State :=
  { guest silent .direct with
    call := fun name args m s =>
      if name = "get_license_text" then ⟨.returned (.int 1), holding [0xff], s, []⟩
      else (guest silent .direct).call name args m s }

end Reference

namespace Formatter

/-- Whatever a plugin does, what an operation fails with is reported, if not because of its arguments or in one of a few
ways by which a plugin's mistakes escape. With a decent plugin none does. -/
theorem failures_reported {f : Formatter σ} (operations : List Operation) {operation : Operation}
    (proper : operation.Proper) {e : PluginError} (failed : (operation.perform (run operations f).2).1 = .error e) :
    (operation.reports e = true ∨ operation.Unready (run operations f).2 e ∨ operation.Unsendable e ∨
      operation.escapes e = true) ∧
    ∀ v : View σ κ, Decent f.plugin.guest v f.transfer → v.sound f.plugin.memory f.plugin.state →
      operation.reports e = true ∨ operation.Unready (run operations f).2 e ∨ operation.Unsendable e := by
  refine ⟨?_, fun v decent sound => ?_⟩
  · exact (limits_any.perform proper trivial failed).imp_right (.imp_right (.imp_right escapes_of_any))
  · have limits := limits_decent decent
    have holds := run_keeps limits.keeps operations ⟨rfl, rfl, sound⟩
    have known := limits.perform proper holds failed
    simpa only [not_escapes_of_decent, or_false] using known

theorem trap_reported_in_session : ∃ (f : Formatter Reference.State) (e : PluginError),
    Decent f.plugin.guest (Reference.view .direct) f.transfer ∧
    (Operation.license.perform (run [.inform] f).2).1 = .error e ∧ Command.isReported e = true := by
  let f : Formatter Reference.State :=
    ⟨⟨Reference.mute Reference.silent .direct, Reference.start .direct, Reference.idle, []⟩, .direct, false, 0, 0⟩
  have decent : Decent f.plugin.guest (Reference.view .direct) f.transfer := Reference.mute_decent trivial
  have failed : (Operation.license.perform (run [.inform] f).2).1 =
      .error (.call .running (.trapped "get_license_text")) := rfl
  refine ⟨f, _, decent, failed, ?_⟩
  have proper : Operation.license.Proper := trivial
  rcases (failures_reported [.inform] proper failed).2 (Reference.view .direct) decent trivial with
    reported | unready | unsendable
  · exact reported
  · exact unready.elim
  · cases unsendable

/-- Bytes that are no text are not reported as a failure of the plugin. -/
theorem garbled_license_escapes : ∃ (f : Formatter Reference.State) (fault : Utf8.Fault),
    (load (fun _ => some ⟨[], Reference.garbled, some (Reference.start .direct, Reference.idle)⟩) 0 moduleHeader).1 =
      .ok f ∧
    (Operation.license.perform f).1 = .error (.badText fault) ∧ Command.isReported (.badText fault) = false :=
  ⟨_, _, rfl, rfl, rfl⟩

end Formatter

end PluginKit
