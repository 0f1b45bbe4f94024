import PluginKit.Proofs.Plugin.Acceptance
import PluginKit.Proofs.Plugin.Reporting

/-!
Exports and the calls to them. Loading makes sure that the exports are there which operations need, but not that they
are functions. So operations call nothing that is not exported, and what they may find is an export of another kind.
-/

namespace PluginKit

open Activity

variable {σ : Type}

def Transfer.version : Transfer → SchemaVersion
  | .direct => .four
  | _ => .three

def optionalExports : List String := ["reset_config", "set_override_config"]

variable {g : Guest σ} {t : Transfer} {name : String} {stage : Stage}

theorem mem_exports_of_calls (member : name ∈ t.calls) : name ∈ t.version.exports := by
  revert name
  cases t <;> simp [Transfer.calls, Transfer.version, SchemaVersion.exports, directExports, bufferedExports]

theorem mem_exports_of_common (member : name ∈ commonExports) : name ∈ t.version.exports := by
  cases t <;> exact List.mem_append_right _ member

def Complete (g : Guest σ) (t : Transfer) : Prop := ∀ name ∈ t.version.exports, g.exports name ≠ none

def Misled (g : Guest σ) (t : Transfer) (e : PluginError) : Prop :=
  ∀ stage name, e = .call stage (.notFunction name) →
    name ∈ t.version.exports ++ optionalExports ∧ ∃ kind, g.exports name = some kind ∧ kind ≠ .function

theorem misled_of_other {e : PluginError} (other : e.isCall = false) : Misled g t e := by
  rintro stage name rfl
  cases other

theorem isCall_of_unwritten {e : PluginError} (unwritten : e.isUnwritten = true) : e.isCall = false := by
  cases e with
  | call => cases unwritten
  | _ => rfl

theorem isCall_of_unread {e : PluginError} (unread : e.isUnread = true) : e.isCall = false := by
  cases e with
  | call => cases unread
  | _ => rfl

/-! ## Calls and transfers -/

theorem Host.call_misled (needed : name ∈ t.version.exports ++ optionalExports) (present : g.exports name ≠ none)
    (args : List Int) : Raises (fun p => p.guest = g) (Misled g t) (call stage name args) := by
  intro p same
  subst same
  rcases call_cases stage name args p with ⟨other, eq⟩ | ⟨-, q, guest, -, -, ⟨reply, -, eq⟩ | ⟨-, eq⟩⟩ <;> rw [eq]
  · refine ⟨rfl, fun _ _ => trivial, ?_⟩
    rintro _ ⟨⟩ _ _ ⟨⟩
    obtain ⟨kind, found⟩ := Option.ne_none_iff_exists'.mp present
    exact ⟨needed, kind, found, fun function => other (function ▸ found)⟩
  · exact ⟨guest, fun _ _ => trivial, fun _ failed => by cases failed⟩
  · refine ⟨guest, fun _ _ => trivial, ?_⟩
    rintro _ ⟨⟩ _ _ ⟨⟩

namespace Formatter

def Hosts (g : Guest σ) (t : Transfer) (f : Formatter σ) : Prop := f.plugin.guest = g ∧ f.transfer = t

theorem host_misled {α : Type} {x : Host σ α} (raises : Raises (fun p => p.guest = g) (Misled g t) x) :
    Raises (Hosts g t) (Misled g t) (host x) :=
  host_yields raises (fun _ holds => holds.1) fun _ _ holds same => ⟨same, holds.2⟩

end Formatter

namespace Complete

open Formatter (Hosts)

variable (complete : Complete g t)

include complete

theorem hostCall (member : name ∈ t.version.exports) (args : List Int) :
    Raises (fun p => p.guest = g) (Misled g t) (Host.call stage name args) :=
  Host.call_misled (List.mem_append_left _ member) (complete name member) args

theorem call (member : name ∈ t.version.exports) (args : List Int) :
    Raises (Hosts g t) (Misled g t) (Formatter.call stage name args) :=
  Formatter.host_misled (complete.hostCall member args)

theorem send (text : String) : Raises (Hosts g t) (Misled g t) (Formatter.send stage text) := by
  refine .get_bind fun f holds => Formatter.host_misled ?_
  rw [holds.2]
  refine (Host.send_raises (fun name member => complete.hostCall (mem_exports_of_calls member))
    (fun _ _ same => same) text).imp (fun _ => id) ?_
  rintro e ((misled | unwritten) | ⟨fault, -, rfl⟩)
  · exact misled
  · exact misled_of_other (isCall_of_unwritten unwritten)
  · exact misled_of_other rfl

theorem receiveFrom (member : name ∈ commonExports) (args : List Int) :
    Raises (Hosts g t) (Misled g t) (Formatter.receiveFrom stage name args) := by
  refine .get_bind fun f holds => Formatter.host_misled ?_
  refine .bind (complete.hostCall (mem_exports_of_common member) args) fun length _ => ?_
  rw [holds.2]
  refine (Host.receive_raises (fun name member => complete.hostCall (mem_exports_of_calls member)) f.patience
    length).imp (fun _ => id) ?_
  rintro e (misled | unread)
  · exact misled
  · exact misled_of_other (isCall_of_unread unread)

/-! ## The parts of operations -/

theorem sendValue (value : Value) : Raises (Hosts g t) (Misled g t) (Formatter.sendValue stage value) := by
  unfold Formatter.sendValue
  split
  · exact complete.send _
  · exact .throw (misled_of_other rfl)

theorem handOver {value : Value} (call : Raises (Hosts g t) (Misled g t) (Formatter.call stage name [])) :
    Raises (Hosts g t) (Misled g t) (Formatter.handOver stage value name) :=
  .bind (complete.sendValue value) fun _ _ => .bind call fun _ _ => .pure trivial

theorem registerConfig (direct : t = .direct) (globals plugin : Fields) :
    Raises (Hosts g t) (Misled g t) (Formatter.registerConfig globals plugin) := by
  have member : ∀ {name}, name ∈ directExports → name ∈ t.version.exports := by
    intro name member
    rw [direct]
    exact List.mem_append_left _ member
  rw [Formatter.registerConfig_eq]
  refine .bind (K := fun _ => True) (.get_bind fun f _ => ?_) fun _ _ => ?_
  · split
    · exact .bind (complete.call (member (by decide)) _) fun _ _ => .pure trivial
    · exact .pure trivial
  · refine .bind (.modify fun _ holds => holds) fun _ _ => .bind (complete.sendValue _) fun _ _ => ?_
    refine .get_bind fun f _ => ?_
    exact .bind (complete.call (member (by decide)) _) fun _ _ => .pure trivial

theorem replaceConfig (buffered : t ≠ .direct) (globals plugin : Fields) :
    Raises (Hosts g t) (Misled g t) (Formatter.replaceConfig globals plugin) := by
  have member : ∀ {name}, name ∈ bufferedExports → name ∈ t.version.exports := by
    intro name member
    cases t with
    | direct => exact absurd rfl buffered
    | buffered size positive => exact List.mem_append_left _ member
    | fractional size => exact List.mem_append_left _ member
  rw [Formatter.replaceConfig_eq]
  refine .bind (K := fun _ => True) (.get_bind fun f holds => ?_) fun _ _ => ?_
  · split
    · rename_i exported
      have present : g.exports "reset_config" ≠ none := by
        rw [← holds.1]
        exact Option.isSome_iff_ne_none.mp exported
      refine .bind (Formatter.host_misled (Host.call_misled ?_ present _)) fun _ _ => .pure trivial
      simp [optionalExports]
    · exact .pure trivial
  · refine .bind (complete.handOver (complete.call (member (by decide)) _)) fun _ _ => ?_
    exact complete.handOver (complete.call (member (by decide)) _)

theorem applyConfig (globals plugin : Fields) :
    Raises (Hosts g t) (Misled g t) (Formatter.applyConfig globals plugin) := by
  rw [Formatter.applyConfig_eq]
  refine .bind (K := fun _ => True) (.get_bind fun f holds => ?_) fun _ _ => ?_
  · rw [holds.2]
    split
    · exact complete.registerConfig rfl globals plugin
    · rename_i other
      exact complete.replaceConfig other globals plugin
  · refine .bind (.modify fun _ holds => holds) fun _ _ => ?_
    exact Formatter.host_misled (.modify fun _ same => same)

theorem ensureConfig : Raises (Hosts g t) (Misled g t) (Formatter.ensureConfig) := by
  refine .get_bind fun f _ => ?_
  split
  · exact .pure trivial
  · exact complete.applyConfig [] []

theorem sendOverride (r : FormatRequest) : Raises (Hosts g t) (Misled g t) (Formatter.sendOverride r) := by
  rw [Formatter.sendOverride_eq]
  split
  · exact .pure trivial
  · refine .get_bind fun f holds => ?_
    split
    · rename_i exported
      have present : g.exports "set_override_config" ≠ none := by
        rw [← holds.1]
        exact Option.isSome_iff_ne_none.mp exported
      refine complete.handOver (Formatter.host_misled (Host.call_misled ?_ present _))
      simp [optionalExports]
    · exact .throw (misled_of_other rfl)

theorem formatReply (r : FormatRequest) (code : Reply) :
    Raises (Hosts g t) (Misled g t) (Formatter.formatReply r code) := by
  have log : ∀ message, Raises (Hosts g t) (Misled g t) (Formatter.log message) :=
    fun message => Formatter.host_misled (.modify fun _ same => same)
  unfold Formatter.formatReply
  split
  · exact .bind (log _) fun _ _ => .pure trivial
  split
  · exact .bind (log _) fun _ _ => complete.receiveFrom (by decide) _
  split
  · exact .bind (complete.receiveFrom (by decide) _) fun _ _ => .throw (misled_of_other rfl)
  · exact .throw (misled_of_other rfl)

theorem formatRequest (r : FormatRequest) : Raises (Hosts g t) (Misled g t) (Formatter.formatRequest r) := by
  refine .bind complete.ensureConfig fun _ _ => .bind (complete.sendOverride r) fun _ _ => ?_
  refine .bind (complete.send _) fun _ _ => .bind (complete.call (mem_exports_of_common (by decide)) _) fun _ _ => ?_
  refine .bind (complete.send _) fun _ _ => .get_bind fun f _ => ?_
  exact .bind (complete.call (mem_exports_of_common (by decide)) _) fun code _ => complete.formatReply r code

theorem ask (member : name ∈ commonExports) : Raises (Hosts g t) (Misled g t) (Formatter.ask name) := by
  refine .bind complete.ensureConfig fun _ _ => .get_bind fun f _ => ?_
  refine .bind (complete.receiveFrom member _) fun text _ => ?_
  unfold Formatter.parseReply
  split
  · exact .pure trivial
  · exact .throw (misled_of_other rfl)

theorem setConfig (globals : Formatter.GlobalArg) (plugin : Value) :
    Raises (Hosts g t) (Misled g t) (Formatter.setConfig globals plugin) := by
  unfold Formatter.setConfig
  split
  · exact .throw (misled_of_other rfl)
  split
  · exact .throw (misled_of_other rfl)
  · exact complete.applyConfig _ _

theorem perform (operation : Operation) : Raises (Hosts g t) (Misled g t) operation.perform := by
  apply Formatter.perform_raises
  · exact fun _ => misled_of_other
  · exact fun globals plugin _ => complete.setConfig globals plugin
  · exact fun _ _ _ r _ _ => complete.formatRequest r
  · exact complete.ensureConfig
  · exact fun name member => complete.ask (by revert name; decide)
  · exact fun name member => complete.receiveFrom (by revert name; decide) []

end Complete

/-! ## Loaded plugins -/

theorem Host.call_guest (stage : Stage) (name : String) (args : List Int) :
    Keeps (fun p => p.guest = g) (call stage name args) := by
  rintro p rfl
  rcases call_cases stage name args p with ⟨-, eq⟩ | ⟨-, q, guest, -, -, ⟨_, -, eq⟩ | ⟨-, eq⟩⟩ <;> rw [eq]
  · exact guest
  · exact guest

namespace Load

theorem settle_yields (v : SchemaVersion) :
    Yields (fun p => p.guest = g) (fun t => t.version = v) (fun _ => True) (settle v) := by
  refine .bind (K := fun t => t.version = v) ?_ fun t same => .bind (.modify fun _ same => same) fun _ _ => .pure same
  cases v with
  | four => exact .pure rfl
  | three =>
      refine .bind (call_keeps (Host.call_guest _ _ _)).raises fun size _ => ?_
      split
      · split
        · exact .pure rfl
        · exact .throw trivial
      · split
        · exact .throw trivial
        · exact .pure rfl
      · exact .throw trivial

end Load

namespace Formatter

variable {engine : Engine σ} {patience : Nat} {bytes : List UInt8} {f : Formatter σ}

theorem load_complete (loaded : (load engine patience bytes).1 = .ok f) :
    (∃ m s, Load.Started engine bytes f.plugin.guest m s) ∧ Complete f.plugin.guest f.transfer := by
  obtain ⟨p, message, compiled, run, -⟩ := load_ok loaded
  rcases Load.compile_cases engine bytes with ⟨g, m, s, compiled', started, passes⟩ | ⟨_, _, failed, -⟩
  swap
  · rw [failed] at compiled
    cases compiled
  obtain rfl := Except.ok.inj (compiled'.symm.trans compiled)
  have ready : Load.Started engine bytes (Plugin.log ⟨g, m, s, []⟩ message).guest m s := started
  rcases Load.inspect_settles ready passes with ⟨v, q, inspected, guest, -, present, -⟩ | ⟨_, _, _, failed, -⟩
  swap
  · rw [failed] at run
    cases run
  rw [inspected] at run
  obtain ⟨same, version, -⟩ := Load.settle_yields v q rfl
  rw [run] at same version
  dsimp only at same
  rw [same]
  refine ⟨⟨m, s, guest ▸ started⟩, fun name member => present name ?_⟩
  rwa [version _ rfl] at member

theorem replaceConfig_unreset (absent : f.plugin.guest.exports "reset_config" = none) (globals plugin : Fields) :
    replaceConfig globals plugin f = (do
      handOver .running (.object globals) "set_global_config"
      handOver .running (.object plugin) "set_plugin_config") f := by
  have skipped : resetConfig f = (.ok (), f) := by
    rw [resetConfig, get_bind, Plugin.hasExport, absent]
    rfl
  rw [replaceConfig_eq, bind_ok skipped]

theorem sendOverride_unsupported (absent : f.plugin.guest.exports "set_override_config" = none) {r : FormatRequest}
    (given : r.override.isVoid = false) : sendOverride r f = (.error (.noOverride r.path), f) := by
  rw [sendOverride_eq, given, if_neg Bool.false_ne_true, get_bind, Plugin.hasExport, absent]
  rfl

/-- Whatever operations are performed on a plugin that was loaded, a call that finds no function finds another export by
that name. Of the two exports that need not be there, one is skipped, and requests for the other are rejected. -/
theorem calls_find_exports (loaded : (load engine patience bytes).1 = .ok f) (operations : List Operation) :
    (∀ stage name, .error (.call stage (.notFunction name)) ∈ (run operations f).1 →
      name ∈ f.transfer.version.exports ++ optionalExports ∧
        ∃ kind, f.plugin.guest.exports name = some kind ∧ kind ≠ .function) ∧
    (f.plugin.guest.exports "reset_config" = none → ∀ globals plugin,
      replaceConfig globals plugin (run operations f).2 = (do
        handOver .running (.object globals) "set_global_config"
        handOver .running (.object plugin) "set_plugin_config") (run operations f).2) ∧
    (f.plugin.guest.exports "set_override_config" = none → ∀ request text override r,
      request.coerce text override = .ok (.request r) → r.override.isVoid = false →
      (ensureConfig (run operations f).2).1 = .ok () →
      ((Operation.format request text override).perform (run operations f).2).1 = .error (.noOverride r.path)) := by
  obtain ⟨-, complete⟩ := load_complete loaded
  have hosts : Hosts f.plugin.guest f.transfer (run operations f).2 :=
    run_keeps (fun operation => (complete.perform operation).keeps) operations ⟨rfl, rfl⟩
  refine ⟨fun stage name failed => ?_, fun absent => ?_, fun absent request text override r coerced given ensured => ?_⟩
  · exact run_raises complete.perform operations ⟨rfl, rfl⟩ failed stage name rfl
  · exact replaceConfig_unreset (hosts.1 ▸ absent)
  · have after := complete.ensureConfig.keeps _ hosts
    have rejected := sendOverride_unsupported (after.1 ▸ absent) given
    have ran : ensureConfig (run operations f).2 = (.ok (), (ensureConfig (run operations f).2).2) :=
      Prod.ext ensured rfl
    have failed : (formatRequest r (run operations f).2).1 = .error (.noOverride r.path) := by
      rw [formatRequest_eq, bind_ok ran, requestText, bind_error rejected]
    rw [Operation.perform, bind_pure_fst, Formatter.format, coerced]
    exact congrArg (Except.map Answer.text) failed

theorem silent_calls_find_functions :
    ∃ f : Formatter Reference.State, (load (Reference.engine Reference.silent .direct) 0 moduleHeader).1 = .ok f ∧
      ∀ operations stage name, .error (.call stage (.notFunction name)) ∉ (run operations f).1 := by
  obtain ⟨f, loaded⟩ : ∃ f, (load (Reference.engine Reference.silent .direct) 0 moduleHeader).1 = .ok f := ⟨_, rfl⟩
  obtain ⟨⟨m, s, started⟩, -⟩ := load_complete loaded
  obtain ⟨same, -, -⟩ := started.unique ⟨_, rfl⟩
  refine ⟨f, loaded, fun operations stage name failed => ?_⟩
  obtain ⟨needed, kind, found, other⟩ := (calls_find_exports loaded operations).1 stage name failed
  have named : name ≠ "memory" := by
    rintro rfl
    revert needed
    cases f.transfer.version <;> decide
  have function : Reference.exports .direct name = some .function := by simp [Reference.exports, named, Transfer.schema]
  rw [same] at found
  exact other (Option.some.inj (found.symm.trans function))

def misleading (name : String) (t : Transfer) : Engine Reference.State := fun _ =>
  let exports := fun other => if other = name then some .other else Reference.exports t other
  some ⟨[], { Reference.guest Reference.silent t with exports }, some (Reference.start t, Reference.idle)⟩

/-- Two plugins are loaded, one of which cannot tell its license and the other cannot be configured, as an export is no
function. -/
theorem exports_without_functions :
    (∃ f, (load (misleading "get_license_text" .direct) 0 moduleHeader).1 = .ok f ∧
      (run [.license] f).1 = [.error (.call .running (.notFunction "get_license_text"))]) ∧
    ∃ f, (load (misleading "reset_config" (.buffered 1 Nat.one_pos)) 0 moduleHeader).1 = .ok f ∧
      (run [.configure (.value (.object [])) (.object [])] f).1 =
        [.error (.call .running (.notFunction "reset_config"))] :=
  ⟨⟨_, rfl, rfl⟩, _, rfl, rfl⟩

end Formatter

end PluginKit
