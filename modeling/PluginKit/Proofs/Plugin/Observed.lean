import PluginKit.Proofs.Plugin.Bisimulation

/-!
Watching a plugin from outside. An observed plugin does what the plugin does and takes a note of every call;
whatever a host does with it gives the same results, and leaves the same plugin behind.
-/

namespace PluginKit

variable {σ ν α : Type}

abbrev Observer (σ ν : Type) := String → List Int → Memory → σ → CallResult σ → List ν

def Guest.observed (g : Guest σ) (note : Observer σ ν) : Guest (σ × List ν) where
  exports := g.exports
  takes := g.takes
  call name args m s :=
    let result := g.call name args m s.1
    ⟨result.outcome, result.memory, (result.state, s.2 ++ note name args m s.1 result), result.imports⟩

def Plugin.observed (p : Plugin σ) (note : Observer σ ν) (notes : List ν) : Plugin (σ × List ν) :=
  ⟨p.guest.observed note, p.memory, (p.state, notes), p.journal⟩

def Formatter.observed (f : Formatter σ) (note : Observer σ ν) (notes : List ν) : Formatter (σ × List ν) :=
  ⟨f.plugin.observed note notes, f.transfer, f.configured, f.configId, f.patience⟩

variable {note : Observer σ ν}

def Plugin.Shadow (note : Observer σ ν) (p : Plugin σ) (q : Plugin (σ × List ν)) : Prop :=
  ∃ notes, q = p.observed note notes

def Formatter.Shadow (note : Observer σ ν) (f : Formatter σ) (h : Formatter (σ × List ν)) : Prop :=
  ∃ notes, h = f.observed note notes

open Activity

def Plugin.noted (p : Plugin σ) (note : Observer σ ν) (name : String) (args : List Int) : List ν :=
  if p.guest.exports name ≠ some .function then []
  else note name args p.memory p.state (p.guest.call name args p.memory p.state)

theorem Plugin.call_observed (p : Plugin σ) (notes : List ν) (name : String) (args : List Int) :
    (p.observed note notes).call name args =
      ((p.call name args).1, (p.call name args).2.observed note (notes ++ p.noted note name args)) := by
  have exports : (p.observed note notes).guest.exports = p.guest.exports := rfl
  unfold Plugin.call Plugin.noted
  rw [exports]
  split
  · rw [List.append_nil]
  · have outcome : ((p.observed note notes).guest.call name args (p.observed note notes).memory
        (p.observed note notes).state).outcome = (p.guest.call name args p.memory p.state).outcome := rfl
    dsimp only
    rw [outcome]
    cases (p.guest.call name args p.memory p.state).outcome <;> rfl

namespace Host

theorem call_observed (stage : Stage) (name : String) (args : List Int) (p : Plugin σ) (notes : List ν) :
    call stage name args (p.observed note notes) = ((call stage name args p).1,
      (call stage name args p).2.observed note (notes ++ p.noted note name args)) := by
  unfold call
  rw [Plugin.call_observed]
  match p.call name args with
  | (.ok reply, after) => rfl
  | (.error fault, after) => rfl

theorem write_observed (pointer : Reply) (data : List UInt8) (p : Plugin σ) (notes : List ν) :
    write pointer data (p.observed note notes) =
      ((write pointer data p).1, (write pointer data p).2.observed note notes) := by
  have memory : (p.observed note notes).memory = p.memory := rfl
  cases pointer with
  | int address =>
      unfold write
      rw [memory]
      dsimp only
      cases p.memory.write? address data <;> rfl
  | nothing =>
      unfold write
      rw [memory]
      dsimp only
      cases p.memory.write? 0 data <;> rfl
  | float x => rfl
  | many values => rfl

end Host

theorem Plugin.shadow_bisimulation (note : Observer σ ν) : Plugin.Bisimulation (Plugin.Shadow note) where
  memory := by
    rintro p _ ⟨notes, rfl⟩
    rfl
  exports := by
    rintro p _ ⟨notes, rfl⟩
    rfl
  takes := by
    rintro p _ ⟨notes, rfl⟩
    rfl
  call := by
    rintro p _ ⟨notes, rfl⟩ name args
    rw [Plugin.call_observed]
    exact ⟨rfl, _, rfl⟩
  write := by
    rintro p _ ⟨notes, rfl⟩ m
    exact ⟨notes, rfl⟩
  log := by
    rintro p _ ⟨notes, rfl⟩ message
    exact ⟨notes, rfl⟩

namespace Formatter

theorem host_apply (x : Host σ α) (f : Formatter σ) :
    host x f = ((x f.plugin).1, { f with plugin := (x f.plugin).2 }) := rfl

theorem bisimilar_shadow {f : Formatter σ} {h : Formatter (σ × List ν)} :
    Bisimilar (Plugin.Shadow note) f h ↔ Shadow note f h := by
  constructor
  · rintro ⟨⟨notes, plugin⟩, transfer, configured, configId, patience⟩
    refine ⟨notes, ?_⟩
    obtain ⟨_, _, _, _, _⟩ := h
    cases plugin
    cases transfer
    cases configured
    cases configId
    cases patience
    rfl
  · rintro ⟨notes, rfl⟩
    exact ⟨⟨notes, rfl⟩, rfl, rfl, rfl, rfl⟩

theorem perform_shadow (operation : Operation) :
    Mirrors (Shadow note) operation.perform operation.perform := by
  intro f h shadow
  obtain ⟨result, after⟩ :=
    perform_bisimilar (Plugin.shadow_bisimulation note) operation f h (bisimilar_shadow.mpr shadow)
  exact ⟨result, bisimilar_shadow.mp after⟩

theorem run_observed (operations : List Operation) (f : Formatter σ) (notes : List ν) :
    (run operations (f.observed note notes)).1 = (run operations f).1 ∧
      ∃ notes', (run operations (f.observed note notes)).2 = (run operations f).2.observed note notes' := by
  obtain ⟨results, after⟩ :=
    run_bisimilar (Plugin.shadow_bisimulation note) operations (bisimilar_shadow.mpr ⟨notes, rfl⟩ : Bisimilar _ f _)
  exact ⟨results.symm, bisimilar_shadow.mp after⟩

end Formatter

end PluginKit
