import PluginKit.Plugin.Load
import PluginKit.Proofs.Plugin.Activity

/-!
Sessions with a loaded plugin: operations one after another, each of which may fail without ending the
session.
-/

namespace PluginKit

variable {σ : Type}

structure Configuration where
  globals : Fields
  plugin : Fields

namespace Configuration

def empty : Configuration := ⟨[], []⟩

def record (c : Configuration) : Value :=
  .record [("global", .object c.globals), ("plugin", .object c.plugin)]

end Configuration

inductive Operation where
  | configure (globals : Formatter.GlobalArg) (plugin : Value)
  | format (request : Request) (text override : Value)
  | resolve
  | diagnose
  | inform
  | license

inductive Answer where
  | done
  | text (s : String)
  | value (v : Value)
  | diagnostics (found : List Diagnostic)
  | info (found : PluginInfo)

abbrev Operation.Result := Except PluginError Answer

open Formatter in
def Operation.perform : Operation → Op σ Answer
  | .configure globals plugin => do
    setConfig globals plugin
    pure .done
  | .format request text override => do
    pure (.text (← Formatter.format request text override))
  | .resolve => do
    pure (.value (← resolvedConfig))
  | .diagnose => do
    pure (.diagnostics (← diagnostics))
  | .inform => do
    pure (.info (← info))
  | .license => do
    pure (.text (← Formatter.license))

def PluginError.isCall : PluginError → Bool
  | .call _ _ => true
  | _ => false

theorem Request.coerce_error {request : Request} {text override : Value} {e : PluginError}
    (refused : request.coerce text override = .error e) : e.isCall = false := by
  unfold Request.coerce at refused
  split at refused
  all_goals
    split at refused
    · cases refused
      rfl
  · dsimp only at refused
    split at refused <;> cases refused
    rfl
  · dsimp only at refused
    split at refused <;> cases refused
    rfl
  · split at refused <;> cases refused
    rfl
  · cases refused
  · split at refused <;> cases refused
    rfl

namespace Formatter

open Activity

/-! ## The parts of operations -/

def releaseConfig : Op σ Unit := do
  let f ← get
  if f.configured then
    let _ ← call .running "release_config" [(f.configId : Int)]

def resetConfig : Op σ Unit := do
  if (← get).plugin.hasExport "reset_config" then
    let _ ← call .running "reset_config" []

def handOver (stage : Stage) (value : Value) (name : String) : Op σ Unit := do
  sendValue stage value
  let _ ← call stage name []

def register (value : Value) : Op σ Unit := do
  sendValue .running value
  let _ ← call .running "register_config" [((← get).configId : Int)]

def handConfig (globals plugin : Fields) : Op σ Unit := do
  match (← get).transfer with
  | .direct => registerConfig globals plugin
  | _ => replaceConfig globals plugin

theorem registerConfig_eq (globals plugin : Fields) :
    registerConfig (σ := σ) globals plugin = (do
      releaseConfig
      modify fun f => { f with configId := f.configId + 1 }
      register (Configuration.mk globals plugin).record) := by
  unfold registerConfig releaseConfig register
  rw [bind_assoc]
  congr 1
  funext f
  split <;> simp [Configuration.record]

theorem replaceConfig_eq (globals plugin : Fields) :
    replaceConfig (σ := σ) globals plugin = (do
      resetConfig
      handOver .running (.object globals) "set_global_config"
      handOver .running (.object plugin) "set_plugin_config") := by
  unfold replaceConfig resetConfig handOver
  rw [bind_assoc]
  congr 1
  funext f
  split <;> simp

theorem applyConfig_eq (globals plugin : Fields) :
    applyConfig (σ := σ) globals plugin = (do
      handConfig globals plugin
      modify fun f => { f with configured := true }
      log ("Plugin config set: global=" ++ (Value.object globals).literal ++
        " plugin=" ++ (Value.object plugin).literal)) := by
  unfold applyConfig handConfig
  rw [bind_assoc]
  congr 1
  funext f
  cases f.transfer <;> rfl

def overrideOf (value : Value) : Option Value := if value.isVoid then none else some value

theorem sendOverride_eq (r : FormatRequest) :
    sendOverride (σ := σ) r =
      if r.override.isVoid then pure ()
      else (do
        if (← get).plugin.hasExport "set_override_config" then
          handOver .formatting r.override "set_override_config"
        else throw (.noOverride r.path)) := by
  unfold sendOverride handOver
  split
  · rfl
  · congr 1
    funext f
    cases f.plugin.hasExport "set_override_config" <;> simp

def requestText (r : FormatRequest) : Op σ String := do
  sendOverride r
  send .formatting r.path
  let _ ← call .formatting "set_file_path" []
  send .formatting r.text
  let code ← call .formatting "format" (configArgs (← get))
  formatReply r code

theorem formatRequest_eq (r : FormatRequest) :
    formatRequest (σ := σ) r = (do ensureConfig; requestText r) := rfl

def ask (name : String) : Op σ Value := do
  ensureConfig
  parseReply (← receiveFrom .running name (configArgs (← get)))

def readFound (value : Value) : Op σ (List Diagnostic) :=
  match value.iterate? with
  | none => throw (.badMapping (.notIterable value.kind))
  | some items => match readDiagnostics items with
    | .ok found => pure found
    | .error faults => throw (.invalid faults)

theorem diagnostics_eq : diagnostics (σ := σ) = ask "get_config_diagnostics" >>= readFound := by
  unfold diagnostics ask
  simp only [bind_assoc]
  rfl

theorem perform_raises {I : Formatter σ → Prop} {E : PluginError → Prop} (operation : Operation)
    (others : ∀ e : PluginError, e.isCall = false → E e)
    (configures : ∀ globals plugin, operation = .configure globals plugin → Raises I E (setConfig globals plugin))
    (formats : ∀ request text override r, operation = .format request text override →
      request.coerce text override = .ok (.request r) → Raises I E (formatRequest r))
    (ensures : Raises I E ensureConfig)
    (asks : ∀ name ∈ ["get_resolved_config", "get_config_diagnostics"], Raises I E (ask name))
    (tells : ∀ name ∈ ["get_plugin_info", "get_license_text"], Raises I E (receiveFrom .running name [])) :
    Raises I E operation.perform := by
  cases operation with
  | configure globals plugin => exact .bind (configures globals plugin rfl) fun _ _ => .pure trivial
  | format request text override =>
      refine .bind (K := fun _ => True) ?_ fun _ _ => .pure trivial
      unfold Formatter.format
      match coerced : request.coerce text override with
      | .error e => exact .throw (others e (Request.coerce_error coerced))
      | .ok (.request r) => exact formats request text override r rfl coerced
      | .ok (.other value) => exact .bind ensures fun _ _ => .throw (others _ rfl)
  | resolve => exact .bind (asks _ (by simp)) fun _ _ => .pure trivial
  | diagnose =>
      rw [Operation.perform, diagnostics_eq]
      refine .bind (K := fun _ => True) (.bind (asks _ (by simp)) fun value _ => ?_) fun _ _ => .pure trivial
      unfold readFound
      split
      · exact .throw (others _ rfl)
      · split
        · exact .pure trivial
        · exact .throw (others _ rfl)
  | inform =>
      refine .bind (K := fun _ => True) (.bind (tells _ (by simp)) fun text _ => ?_) fun _ _ => .pure trivial
      split
      · exact .pure trivial
      · exact .throw (others _ rfl)
  | license => exact .bind (tells _ (by simp)) fun _ _ => .pure trivial

theorem perform_keeps {I : Formatter σ → Prop} (operation : Operation)
    (configures : ∀ globals plugin, operation = .configure globals plugin → Keeps I (setConfig globals plugin))
    (formats : ∀ request text override r, operation = .format request text override →
      request.coerce text override = .ok (.request r) → Keeps I (formatRequest r))
    (ensures : Keeps I ensureConfig)
    (asks : ∀ name ∈ ["get_resolved_config", "get_config_diagnostics"], Keeps I (ask name))
    (tells : ∀ name ∈ ["get_plugin_info", "get_license_text"], Keeps I (receiveFrom .running name [])) :
    Keeps I operation.perform := by
  refine Yields.keeps (perform_raises operation (fun _ _ => trivial) ?_ ?_ ensures.raises ?_ ?_)
  · exact fun globals plugin same => (configures globals plugin same).raises
  · exact fun request text override r same coerced => (formats request text override r same coerced).raises
  · exact fun name member => (asks name member).raises
  · exact fun name member => (tells name member).raises

/-! ## The transfer -/

def Moves (transfer : Transfer) (f : Formatter σ) : Prop := f.transfer = transfer

section

variable {transfer : Transfer}

theorem host_moves {α : Type} (x : Host σ α) : Keeps (Moves transfer) (host x) := fun _ same => same

theorem send_moves (stage : Stage) (text : String) : Keeps (Moves transfer) (send (σ := σ) stage text) :=
  .get_bind fun _ => host_moves _

theorem receiveFrom_moves (stage : Stage) (name : String) (args : List Int) :
    Keeps (Moves transfer) (receiveFrom (σ := σ) stage name args) := .get_bind fun _ => host_moves _

theorem sendValue_moves (stage : Stage) (value : Value) : Keeps (Moves transfer) (sendValue (σ := σ) stage value) := by
  unfold sendValue
  split
  · exact send_moves _ _
  · exact .throw _

theorem handOver_moves (stage : Stage) (value : Value) (name : String) :
    Keeps (Moves transfer) (handOver (σ := σ) stage value name) :=
  .bind (sendValue_moves _ _) fun _ => .bind (host_moves _) fun _ => .pure _

theorem registerConfig_moves (globals plugin : Fields) :
    Keeps (Moves transfer) (registerConfig (σ := σ) globals plugin) := by
  rw [registerConfig_eq]
  refine .bind (.get_bind fun _ => ?_) fun _ => .bind (fun _ same => same) fun _ => ?_
  · split
    · exact .bind (host_moves _) fun _ => .pure _
    · exact .pure _
  · exact .bind (sendValue_moves _ _) fun _ => .get_bind fun _ => .bind (host_moves _) fun _ => .pure _

theorem replaceConfig_moves (globals plugin : Fields) :
    Keeps (Moves transfer) (replaceConfig (σ := σ) globals plugin) := by
  rw [replaceConfig_eq]
  refine .bind (.get_bind fun _ => ?_) fun _ => .bind (handOver_moves _ _ _) fun _ => handOver_moves _ _ _
  split
  · exact .bind (host_moves _) fun _ => .pure _
  · exact .pure _

theorem applyConfig_moves (globals plugin : Fields) :
    Keeps (Moves transfer) (applyConfig (σ := σ) globals plugin) := by
  rw [applyConfig_eq]
  refine .bind (.get_bind fun _ => ?_) fun _ => .bind (fun _ same => same) fun _ => host_moves _
  split
  · exact registerConfig_moves _ _
  · exact replaceConfig_moves _ _

theorem ensureConfig_moves : Keeps (Moves transfer) (ensureConfig (σ := σ)) := by
  refine .get_bind fun _ => ?_
  split
  · exact .pure _
  · exact applyConfig_moves _ _

theorem requestText_moves (r : FormatRequest) : Keeps (Moves transfer) (requestText (σ := σ) r) := by
  have overrides : Keeps (Moves transfer) (sendOverride (σ := σ) r) := by
    rw [sendOverride_eq]
    split
    · exact .pure _
    · refine .get_bind fun _ => ?_
      split
      · exact handOver_moves _ _ _
      · exact .throw _
  refine .bind overrides fun _ => .bind (send_moves _ _) fun _ => .bind (host_moves _) fun _ => ?_
  refine .bind (send_moves _ _) fun _ => .get_bind fun _ => .bind (host_moves _) fun code => ?_
  unfold formatReply
  split
  · exact .bind (host_moves _) fun _ => .pure _
  split
  · exact .bind (host_moves _) fun _ => receiveFrom_moves _ _ _
  split
  · exact .bind (receiveFrom_moves _ _ _) fun _ => .throw _
  · exact .throw _

end

theorem perform_transfer (operation : Operation) (f : Formatter σ) : (operation.perform f).2.transfer = f.transfer := by
  refine perform_keeps (I := Moves f.transfer) operation ?_ ?_ ensureConfig_moves ?_ ?_ f rfl
  · intro globals plugin _
    unfold setConfig
    split
    · exact .throw _
    · split
      · exact .throw _
      · exact applyConfig_moves _ _
  · exact fun _ _ _ r _ _ => .bind ensureConfig_moves fun _ => requestText_moves r
  · intro name _
    refine .bind ensureConfig_moves fun _ => .get_bind fun _ => .bind (receiveFrom_moves _ _ _) fun text => ?_
    unfold parseReply
    split
    · exact .pure _
    · exact .throw _
  · exact fun name _ => receiveFrom_moves _ _ _

/-! ## Runs -/

def run : List Operation → Formatter σ → List Operation.Result × Formatter σ
  | [], f => ([], f)
  | operation :: rest, f =>
    let (result, after) := operation.perform f
    let (results, last) := run rest after
    (result :: results, last)

theorem run_nil (f : Formatter σ) : run [] f = ([], f) := rfl

theorem run_cons (operation : Operation) (rest : List Operation) (f : Formatter σ) :
    run (operation :: rest) f =
      ((operation.perform f).1 :: (run rest (operation.perform f).2).1, (run rest (operation.perform f).2).2) :=
  rfl

theorem run_performed {operation : Operation} {rest : List Operation} {result : Operation.Result}
    {results : List Operation.Result} {f f' g : Formatter σ} (performed : operation.perform f = (result, f'))
    (ran : run rest f' = (results, g)) : run (operation :: rest) f = (result :: results, g) := by
  rw [run_cons, performed, ran]

theorem run_append (first second : List Operation) (f : Formatter σ) :
    run (first ++ second) f =
      ((run first f).1 ++ (run second (run first f).2).1, (run second (run first f).2).2) := by
  induction first generalizing f with
  | nil => rfl
  | cons operation rest ih => rw [List.cons_append, run_cons, run_cons, ih, List.cons_append]

theorem run_keeps {I : Formatter σ → Prop} (step : ∀ operation : Operation, Keeps I operation.perform)
    (operations : List Operation) {f : Formatter σ} (holds : I f) : I (run operations f).2 := by
  induction operations generalizing f with
  | nil => exact holds
  | cons operation rest ih => exact ih (step operation f holds)

theorem run_raises {I : Formatter σ → Prop} {E : PluginError → Prop}
    (step : ∀ operation : Operation, Raises I E operation.perform) (operations : List Operation) {f : Formatter σ}
    (holds : I f) {e : PluginError} (failed : .error e ∈ (run operations f).1) : E e := by
  induction operations generalizing f with
  | nil => cases failed
  | cons operation rest ih =>
      obtain ⟨after, -, fails⟩ := step operation f holds
      rcases List.mem_cons.mp failed with first | later
      · exact fails e first.symm
      · exact ih after later

end Formatter

end PluginKit
