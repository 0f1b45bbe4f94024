import PluginKit.Proofs.Plugin.Contract
import PluginKit.Proofs.Plugin.Transfer

/-!
What loading leaves behind: a formatter that has not been configured, over the plugin that was started, after
calls to functions that tell about versions and sizes.
-/

namespace PluginKit

variable {σ : Type}

open Activity

namespace Load

def calls : List String := ["dprint_plugin_version_4", "get_plugin_schema_version", "get_wasm_memory_buffer_size"]

theorem calls_subset : calls ⊆ hostCalls := by simp [calls, hostCalls]

variable {I : Plugin σ → Prop}

theorem call_keeps {name : String} (keeps : Keeps I (Host.call .running name [])) : Keeps I (call name) := by
  intro p holds
  have after := keeps p holds
  unfold call Host.call at *
  revert after
  match p.call name [] with
  | (.ok reply, q) => exact id
  | (.error fault, q) => exact id

theorem versionExport?_mem {g : Guest σ} {name : String} (found : versionExport? g = some name) : name ∈ calls := by
  have member := List.mem_of_find?_eq_some found
  simp only [List.mem_cons, List.not_mem_nil, or_false] at member
  rcases member with rfl | rfl <;> simp [calls]

theorem version_keeps (keeps : ∀ name ∈ calls, Keeps I (Host.call .running name [])) : Keeps I version := by
  refine .get_bind fun p => ?_
  cases found : versionExport? p.guest with
  | none => exact .throw _
  | some name =>
      refine .bind (call_keeps (keeps name (versionExport?_mem found))) fun reply => ?_
      split
      · exact .pure _
      split
      · exact .pure _
      · exact .throw _

theorem transfer_keeps (keeps : ∀ name ∈ calls, Keeps I (Host.call .running name [])) (version : SchemaVersion) :
    Keeps I (transfer version) := by
  cases version with
  | four => exact .pure _
  | three =>
      refine .bind (call_keeps (keeps _ (by simp [calls]))) fun reply => ?_
      split
      · split
        · exact .pure _
        · exact .throw _
      · split
        · exact .throw _
        · exact .pure _
      · exact .throw _

theorem inspect_keeps (keeps : ∀ name ∈ calls, Keeps I (Host.call .running name []))
    (logs : ∀ p message, I p → I (p.log message)) : Keeps I inspect := by
  have log : ∀ message, Keeps I (Host.log message) := fun message p holds => logs p message holds
  have ready : ∀ found, Keeps I (do
      let moved ← transfer found
      Host.log ("Plugin instance ready (schema version " ++ toString moved.schema ++ ")")
      pure moved) :=
    fun found => .bind (transfer_keeps keeps found) fun _ => .bind (log _) fun _ => .pure _
  have checked : ∀ p : Plugin σ, Keeps I (do
      let found ← version
      let missing := found.exports.filter fun name => (p.guest.exports name).isNone
      if !missing.isEmpty then fail (.missingExports missing)
      let moved ← transfer found
      Host.log ("Plugin instance ready (schema version " ++ toString moved.schema ++ ")")
      pure moved) := by
    intro p
    refine .bind (version_keeps keeps) fun found => ?_
    dsimp only
    split
    · exact .bind (.throw _) fun _ => ready found
    · exact ready found
  refine .get_bind fun p => ?_
  dsimp only
  split
  · exact .bind (.throw _) fun _ => checked p
  · exact checked p

end Load

namespace Formatter

theorem load_ok {engine : Engine σ} {patience : Nat} {bytes : List UInt8} {f : Formatter σ}
    (loaded : (load engine patience bytes).1 = .ok f) :
    ∃ (p : Plugin σ) (message : String), Load.compile engine bytes = .ok p ∧
      Load.inspect (p.log message) = (.ok f.transfer, f.plugin) ∧ f.configured = false ∧ f.configId = 0 := by
  unfold load at loaded
  split at loaded
  · cases loaded
  rename_i p compiled
  dsimp only at loaded
  split at loaded
  · cases loaded
  rename_i transfer after run
  cases loaded
  exact ⟨p, _, compiled, run, rfl, rfl⟩

theorem load_keeps {engine : Engine σ} {patience : Nat} {bytes : List UInt8} {f : Formatter σ}
    {I : Plugin σ → Prop} (loaded : (load engine patience bytes).1 = .ok f)
    (start : ∀ p, Load.compile engine bytes = .ok p → I p)
    (keeps : ∀ name ∈ Load.calls, Keeps I (Host.call .running name []))
    (logs : ∀ p message, I p → I (p.log message)) : I f.plugin := by
  obtain ⟨p, message, compiled, run, -⟩ := load_ok loaded
  have after := Load.inspect_keeps keeps logs (p.log message) (logs p message (start p compiled))
  rwa [run] at after

end Formatter

end PluginKit
