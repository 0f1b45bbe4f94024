import PluginKit.Proofs.Plugin.Handing
import PluginKit.Proofs.Plugin.Loading
import PluginKit.Proofs.Plugin.Reference

/-!
Formatting through a plugin is formatting by the behaviour that the plugin implements. A session is
followed by what has been asked for so far: the latest configuration, the empty one at first. On either
schema the answers are those that the behaviour gives under it.
-/

namespace PluginKit

variable {σ : Type}

open Activity Abi

variable {F : Behaviour} {v : View σ Ledger} {p q : Plugin σ} {transfer : Transfer} {name : String}

/-! ## Plugins that implement a behaviour -/

theorem Abi.Implements.heeds {g : Guest σ} (implements : Implements F g v transfer) :
    Heeds hostCalls (fun l name args shared => l.call name args shared true) g v transfer where
  carries := implements.carries
  ready := implements.ready
  exported name member := implements.exported name (by
    cases transfer <;> simp_all [Transfer.takers, Transfer.requests])
  resettable := implements.resettable
  completes := implements.completes
  holds := implements.holds

theorem Host.receiveFrom_offered {text : String} (implements : Implements F p.guest v transfer)
    (sound : v.sound p.memory p.state) (stage : Stage) (patience : Nat) (known : name ∈ hostCalls)
    (exported : p.guest.exports name = some .function) (offers : Offers p.guest v name text p.memory p.state) :
    ∃ q, receiveFrom stage transfer patience name [] p = (.ok (Text.held text), q) ∧
      p.Holds v ((v.kept p.memory p.state).call name [] (v.shared p.memory p.state) true) q := by
  obtain ⟨reply, p₁, run, holds, returned⟩ := call_holds implements.heeds sound stage known exported []
  obtain ⟨rfl, shared⟩ := offers returned
  rw [← holds.guest] at implements
  obtain ⟨q, received, stays⟩ :=
    receive_text implements.carries implements.ready holds.sound stage patience shared
  refine ⟨q, by rw [receiveFrom, bind_ok run, received], stays.guest.trans holds.guest, stays.sound, ?_⟩
  rw [stays.kept, holds.kept]

namespace Formatter

variable {f : Formatter σ} {c : Configuration} {value : Value}

/-! ## Configuring -/

structure Serves (F : Behaviour) (v : View σ Ledger) (c : Configuration) (f : Formatter σ) : Prop where
  implements : Implements F f.plugin.guest v f.transfer
  sound : v.sound f.plugin.memory f.plugin.state
  idle : (v.kept f.plugin.memory f.plugin.state).override = none
  config : if f.configured then (v.kept f.plugin.memory f.plugin.state).InForce f.transfer f.configArgs c
    else c = .empty
  initial : v.FitsConfig f.transfer .empty

theorem applyConfig_serves {before : Configuration} (serves : f.Serves F v before) (fits : v.FitsConfig f.transfer c)
    (writable : Json.unwritable? c.record = none) :
    ∃ f', applyConfig c.globals c.plugin f = (.ok (), f') ∧ f'.Serves F v c ∧ f'.configured = true := by
  obtain ⟨f', run, takes, configured⟩ :=
    applyConfig_ok serves.implements.heeds configCalls_subset serves.sound fits writable
  refine ⟨f', run, ⟨?_, takes.holds.sound, ?_, ?_, ?_⟩, configured⟩
  · rw [takes.holds.guest, takes.transfer]
    exact serves.implements
  · rw [takes.holds.kept]
    exact (taken_rest id (fun _ _ _ _ => rfl) c).1.trans serves.idle
  · rw [if_pos configured]
    exact takes.inForce id fun _ _ _ _ => rfl
  · rw [takes.transfer]
    exact serves.initial

theorem ensureConfig_serves (serves : f.Serves F v c) :
    ∃ f', ensureConfig f = (.ok (), f') ∧ f'.Serves F v c ∧ f'.configured = true := by
  rw [ensureConfig, get_bind]
  have config := serves.config
  by_cases configured : f.configured = true
  · rw [if_pos configured]
    exact ⟨f, rfl, serves, configured⟩
  · -- Nothing was handed over yet, so the empty configuration is handed over now.
    rw [if_neg configured] at config ⊢
    subst config
    exact applyConfig_serves (c := .empty) serves serves.initial rfl

/-! ## Formatting -/

theorem sendOverride_ok {r : FormatRequest} (serves : f.Serves F v c) (fits : v.FitsRequest r)
    (writable : r.override.isVoid = true ∨ Json.unwritable? r.override = none) :
    ∃ q, sendOverride r f = (.ok (), { f with plugin := q }) ∧
      f.plugin.Holds v { v.kept f.plugin.memory f.plugin.state with
        override := (overrideOf r.override).map Json.bytes } q := by
  rw [sendOverride_eq, overrideOf]
  by_cases empty : r.override.isVoid = true
  · rw [if_pos empty, if_pos empty, Option.map_none, ← serves.idle]
    exact ⟨f.plugin, rfl, rfl, serves.sound, rfl⟩
  · rw [if_neg empty, if_neg empty, get_bind]
    have exported := serves.implements.exported "set_override_config" (by simp [Transfer.requests])
    rw [if_pos (by rw [Plugin.hasExport, exported]; rfl)]
    exact handOver_ok serves.implements.heeds serves.sound (fits.override ((Bool.not_eq_true _).mp empty))
      (writable.resolve_left empty) .formatting (by simp [hostCalls]) exported

def verdictResult (path text : String) : Verdict → Except PluginError String
  | .noChange => .ok (Text.held text)
  | .change changed => .ok (Text.held changed)
  | .error message => .error (.rejected (Text.held path) (Text.held message))

theorem receiveFrom_offered {text : String} (implements : Implements F f.plugin.guest v f.transfer)
    (sound : v.sound f.plugin.memory f.plugin.state) (stage : Stage) (known : name ∈ hostCalls)
    (requested : name ∈ f.transfer.requests)
    (offers : Offers f.plugin.guest v name text f.plugin.memory f.plugin.state) :
    ∃ q, receiveFrom stage name [] f = (.ok (Text.held text), { f with plugin := q }) ∧
      f.plugin.Holds v ((v.kept f.plugin.memory f.plugin.state).call name []
        (v.shared f.plugin.memory f.plugin.state) true) q := by
  obtain ⟨q, run, holds⟩ := Host.receiveFrom_offered implements sound stage f.patience known
    (implements.exported _ requested) offers
  exact ⟨q, host_ok run, holds⟩

theorem formatReply_ok (path text : String) (override : Value) {code : Reply} {verdict : Verdict}
    (implements : Implements F f.plugin.guest v f.transfer) (sound : v.sound f.plugin.memory f.plugin.state)
    (delivers : Delivers f.plugin.guest v code f.plugin.memory f.plugin.state verdict) :
    ∃ q, formatReply ⟨Text.held path, Text.held text, override⟩ code f =
        (verdictResult path text verdict, { f with plugin := q }) ∧
      f.plugin.Holds v (v.kept f.plugin.memory f.plugin.state) q := by
  cases verdict with
  | noChange =>
      cases delivers
      exact ⟨_, rfl, rfl, sound, rfl⟩
  | change changed =>
      obtain ⟨rfl, offers⟩ := delivers
      let logged := f.plugin.log ("Formatted " ++ Text.held path)
      obtain ⟨q, run, holds⟩ := receiveFrom_offered (f := { f with plugin := logged }) implements sound
        .formatting (by simp [hostCalls]) (by simp [Transfer.requests]) offers
      exact ⟨q, run, holds.guest, holds.sound, holds.kept⟩
  | error message =>
      obtain ⟨rfl, offers⟩ := delivers
      obtain ⟨q, run, holds⟩ := receiveFrom_offered implements sound .formatting (by simp [hostCalls])
        (by simp [Transfer.requests]) offers
      exact ⟨q, bind_ok run, holds⟩

theorem formatRequest_serves {path text : String} {override : Value} (serves : f.Serves F v c)
    (fits : v.FitsRequest ⟨Text.held path, Text.held text, override⟩)
    (writable : override.isVoid = true ∨ Json.unwritable? override = none) :
    ∃ f', formatRequest ⟨Text.held path, Text.held text, override⟩ f =
        (verdictResult path text (F c (overrideOf override) path text), f') ∧ f'.Serves F v c := by
  obtain ⟨f₀, ensured, serves, configured⟩ := ensureConfig_serves serves
  have inForce := serves.config
  rw [if_pos configured] at inForce
  have implements := serves.implements
  -- The override, the path and the text are handed over one after the other.
  obtain ⟨p₁, overridden, holds₁⟩ := sendOverride_ok serves fits writable
  rw [← holds₁.guest] at implements
  obtain ⟨p₂, pathSent, stays₂, path₂⟩ := send_ok (f := { f₀ with plugin := p₁ }) implements.heeds holds₁.sound .formatting
    fits.path (Utf8.encodeStrict_held path)
  rw [← stays₂.guest] at implements
  obtain ⟨_, p₃, pathSet, holds₃, -⟩ := call_ok (f := { f₀ with plugin := p₂ }) implements.heeds stays₂.sound
    .formatting (by simp [hostCalls]) (implements.exported "set_file_path" (by simp [Transfer.requests])) []
  rw [← holds₃.guest] at implements
  obtain ⟨p₄, textSent, stays₄, text₄⟩ := send_ok (f := { f₀ with plugin := p₃ }) implements.heeds holds₃.sound .formatting
    fits.text (Utf8.encodeStrict_held text)
  rw [← stays₄.guest] at implements
  obtain ⟨code, p₅, formatted, holds₅, returned⟩ := call_ok (f := { f₀ with plugin := p₄ }) implements.heeds stays₄.sound
    .formatting (by simp [hostCalls]) (implements.exported "format" (by simp [Transfer.requests])) f₀.configArgs
  have ledger : v.kept p₄.memory p₄.state = { v.kept f₀.plugin.memory f₀.plugin.state with
      override := (overrideOf override).map Json.bytes, path := some (Utf8.bytes path) } := by
    rw [stays₄.kept, holds₃.kept, Ledger.call_setPath, stays₂.kept, holds₁.kept, path₂]
  have delivers : Delivers p₄.guest v code p₅.memory p₅.state (F c (overrideOf override) path text) := by
    refine implements.formats stays₄.sound ?_ ?_ ?_ text₄ returned <;> rw [ledger]
    exact (Ledger.inForce_congr rfl rfl rfl).mpr inForce
  rw [← holds₅.guest] at implements delivers
  obtain ⟨p₆, replied, holds₆⟩ := formatReply_ok (f := { f₀ with plugin := p₅ }) path text override implements
    holds₅.sound delivers
  refine ⟨{ f₀ with plugin := p₆ }, ?_, ?_⟩
  · rw [formatRequest, bind_ok ensured, bind_ok overridden, bind_ok pathSent, bind_ok pathSet, bind_ok textSent,
      get_bind]
    exact (bind_ok formatted).trans replied
  · have kept : v.kept p₆.memory p₆.state = { v.kept f₀.plugin.memory f₀.plugin.state with
        override := none, path := some (Utf8.bytes path) } := by
      rw [holds₆.kept, holds₅.kept, Ledger.call_format, ledger]
    rw [← holds₆.guest] at implements
    refine ⟨implements, holds₆.sound, by rw [kept], ?_, serves.initial⟩
    change if f₀.configured = true then Ledger.InForce (v.kept p₆.memory p₆.state) f₀.transfer f₀.configArgs c else _
    rw [if_pos configured, kept]
    exact (Ledger.inForce_congr rfl rfl rfl).mpr inForce

end Formatter

/-! ## Sessions -/

inductive Intent where
  | configure (c : Configuration)
  | format (path text : String) (override : Option Value)

namespace Intent

open Formatter

/-- Operations by their intent, in whatever shape they come. Configurations and overrides can be written,
paths and texts consist of whole characters. -/
inductive Means : Operation → Intent → Prop
  | configure {globals : GlobalArg} {plugin : Value} {c : Configuration} :
      globals.toFields = .ok c.globals → plugin.toMapping = .ok c.plugin →
      Json.unwritable? (.object c.globals) = none → Json.unwritable? (.object c.plugin) = none →
      Means (.configure globals plugin) (.configure c)
  | format {request : Request} {given override value : Value} {path text : String} :
      request.coerce given override = .ok (.request ⟨Text.held path, Text.held text, value⟩) →
      value.isVoid = true ∨ Json.unwritable? value = none →
      Means (.format request given override) (.format path text (overrideOf value))

def result (F : Behaviour) (c : Configuration) : Intent → Operation.Result
  | .configure _ => .ok .done
  | .format path text override => (verdictResult path text (F c override path text)).map .text

def next (c : Configuration) : Intent → Configuration
  | .configure c' => c'
  | .format _ _ _ => c

def results (F : Behaviour) : Configuration → List Intent → List Operation.Result
  | _, [] => []
  | c, intent :: rest => intent.result F c :: results F (intent.next c) rest

end Intent

namespace Formatter

variable {f : Formatter σ} {c : Configuration}

theorem perform_serves {operation : Operation} {intent : Intent} (serves : f.Serves F v c)
    (means : Intent.Means operation intent) (fits : operation.Fits v f.transfer) :
    (operation.perform f).1 = intent.result F c ∧ (operation.perform f).2.Serves F v (intent.next c) := by
  cases means with
  | configure globals plugin writable writable' =>
      obtain ⟨f', run, after, -⟩ := applyConfig_serves serves (fits _ globals plugin)
        (by rw [unwritable?_record, writable, writable']; rfl)
      rw [Operation.perform, setConfig, globals, plugin]
      rw [bind_ok run]
      exact ⟨rfl, after⟩
  | format coerced writable =>
      obtain ⟨f', run, after⟩ := formatRequest_serves serves (fits _ coerced) writable
      rw [Operation.perform, Formatter.format, coerced, Intent.result]
      generalize verdictResult _ _ _ = answer at run ⊢
      cases answer with
      | ok text =>
          rw [bind_ok run]
          exact ⟨rfl, after⟩
      | error e =>
          rw [bind_error run]
          exact ⟨rfl, after⟩

theorem run_serves {operations : List Operation} {intents : List Intent} (serves : f.Serves F v c)
    (means : List.Forall₂ Intent.Means operations intents) (fits : ∀ o ∈ operations, o.Fits v f.transfer) :
    (run operations f).1 = Intent.results F c intents := by
  induction means generalizing f c with
  | nil => rfl
  | cons first _ ih =>
      obtain ⟨now, later⟩ := List.forall_mem_cons.mp fits
      obtain ⟨result, after⟩ := perform_serves serves first now
      rw [run_cons, result, ih after (by rwa [perform_transfer]), Intent.results]

structure Loaded (F : Behaviour) (v : View σ Ledger) (engine : Engine σ) (patience : Nat) (bytes : List UInt8)
    (f : Formatter σ) : Prop where
  loaded : (load engine patience bytes).1 = .ok f
  started : ∀ p, Load.compile engine bytes = .ok p →
    Implements F p.guest v f.transfer ∧ v.sound p.memory p.state ∧ v.kept p.memory p.state = .empty
  initial : v.FitsConfig f.transfer .empty

theorem Loaded.serves {engine : Engine σ} {patience : Nat} {bytes : List UInt8}
    (loaded : Loaded F v engine patience bytes f) : f.Serves F v .empty := by
  have keeps : ∀ name ∈ Load.calls, Keeps (fun p : Plugin σ => Implements F p.guest v f.transfer ∧
      v.sound p.memory p.state ∧ v.kept p.memory p.state = .empty) (Host.call .running name []) := by
    rintro name member p ⟨implements, sound, kept⟩
    rcases Host.call_cases .running name [] p with ⟨-, eq⟩ | ⟨exported, -⟩
    · rw [eq]
      exact ⟨implements, sound, kept⟩
    · obtain ⟨reply, q, run, holds, -⟩ :=
        Host.call_holds implements.heeds sound .running (Load.calls_subset member) exported []
      rw [run]
      refine ⟨holds.guest ▸ implements, holds.sound, ?_⟩
      rw [holds.kept, kept]
      simp only [Load.calls, List.mem_cons, List.not_mem_nil, or_false] at member
      rcases member with rfl | rfl | rfl <;> rfl
  obtain ⟨implements, sound, kept⟩ := load_keeps loaded.loaded loaded.started keeps fun _ _ holds => holds
  obtain ⟨-, -, -, -, fresh, -⟩ := load_ok loaded.loaded
  refine ⟨implements, sound, by rw [kept]; rfl, ?_, loaded.initial⟩
  rw [fresh]
  rfl

/-- A session gets the answers of the behaviour, under the configuration that was set last. So plugins that
implement the same behaviour cannot be told apart, whichever schema they speak, as long as both have room for what they
are sent. -/
theorem session_follows_behaviour {τ : Type} {w : View τ Ledger} {engine : Engine σ} {engine' : Engine τ}
    {patience patience' : Nat} {bytes bytes' : List UInt8} {h : Formatter τ} {operations : List Operation}
    {intents : List Intent} (loaded : f.Loaded F v engine patience bytes)
    (loaded' : h.Loaded F w engine' patience' bytes') (means : List.Forall₂ Intent.Means operations intents)
    (fits : ∀ o ∈ operations, o.Fits v f.transfer) (fits' : ∀ o ∈ operations, o.Fits w h.transfer) :
    (run operations f).1 = Intent.results F .empty intents ∧ (run operations f).1 = (run operations h).1 := by
  have results := run_serves loaded.serves means fits
  exact ⟨results, results.trans (run_serves loaded'.serves means fits').symm⟩

theorem echo_session_on_both_schemas :
    let c : Configuration := ⟨[(.text "useTabs", .flag true)], []⟩
    let o : Value := .object [(.text "lineWidth", .int 80)]
    let format := fun override => Operation.format (.path (Text.held "a")) (.text (Text.held "x")) override
    let operations := [format .null, .configure (.value (.object c.globals)) .null, format o, format .null]
    ∃ f h : Formatter Reference.State, f.schema = 3 ∧ h.schema = 4 ∧
      (run operations f).1 = [.ok (.text (Text.held (Json.text Configuration.empty.record ++ "a" ++ "x"))),
        .ok .done, .error (.rejected (Text.held "a") (Text.held (Json.text o))),
        .ok (.text (Text.held (Json.text c.record ++ "a" ++ "x")))] ∧
      (run operations f).1 = (run operations h).1 := by
  intro c o format operations
  have implements : ∀ {transfer : Transfer}, Reference.Whole transfer →
      Implements Reference.echo (Reference.guest Reference.echoRule transfer) (Reference.view transfer) transfer :=
    fun whole => Reference.implements whole Reference.renders_echo
  have first : ∃ f : Formatter Reference.State, f.schema = 3 ∧
      f.Loaded Reference.echo (Reference.view (.buffered 1 Nat.one_pos))
        (Reference.engine Reference.echoRule (.buffered 1 Nat.one_pos)) 0 moduleHeader := by
    refine ⟨_, rfl, rfl, fun p compiled => ?_, View.fitsConfig_of_roomy (fun _ => trivial) _ _⟩
    cases compiled
    exact ⟨implements trivial, Reference.sound_start _ _, rfl⟩
  have second : ∃ h : Formatter Reference.State, h.schema = 4 ∧
      h.Loaded Reference.echo (Reference.view .direct)
        (Reference.engine Reference.echoRule .direct) 0 moduleHeader := by
    refine ⟨_, rfl, rfl, fun p compiled => ?_, View.fitsConfig_of_roomy (fun _ => trivial) _ _⟩
    cases compiled
    exact ⟨implements trivial, Reference.sound_start _ _, rfl⟩
  have plain : Intent.Means (format .null) (.format "a" "x" none) :=
    .format (rfl : Request.coerce _ _ _ = .ok (.request ⟨_, _, .null⟩)) (.inl rfl)
  have overridden : Intent.Means (format o) (.format "a" "x" (some o)) :=
    .format (rfl : Request.coerce _ _ _ = .ok (.request ⟨_, _, o⟩)) (.inr rfl)
  have configured : Intent.Means (.configure (.value (.object c.globals)) .null) (.configure c) :=
    .configure rfl rfl rfl rfl
  obtain ⟨f, three, loaded⟩ := first
  obtain ⟨h, four, loaded'⟩ := second
  obtain ⟨results, same⟩ := session_follows_behaviour loaded loaded'
    (.cons plain (.cons configured (.cons overridden (.cons plain .nil))))
    (fun o _ => o.fits_of_roomy (fun _ => trivial) _) fun o _ => o.fits_of_roomy (fun _ => trivial) _
  exact ⟨f, h, three, four, results.trans rfl, same⟩

end Formatter

end PluginKit
