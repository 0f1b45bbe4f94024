import PluginKit.Proofs.Plugin.Loading
import PluginKit.Proofs.Plugin.Reference

/-!
Which modules are loaded. What is asked of a module is put as requirements about the module alone. It is loaded if and
only if it meets all of them, and the first one that it does not meet decides about the error.
-/

namespace PluginKit

open Activity

variable {σ : Type}

namespace Guest

variable {g : Guest σ} {name : String} {m m' m'' : Memory} {s s' s'' : σ} {reply reply' : Reply} {fault : CallFault}

def Tells (g : Guest σ) (name : String) (m : Memory) (s : σ) (reply : Reply) (m' : Memory) (s' : σ) : Prop :=
  g.exports name = some .function ∧ g.Returns name [] m s reply m' s'

inductive Silent (g : Guest σ) (name : String) (m : Memory) (s : σ) : CallFault → Prop where
  | notFunction (other : g.exports name ≠ some .function) : Silent g name m s (.notFunction name)
  | trapped (function : g.exports name = some .function) (outcome : (g.call name [] m s).outcome = .trapped) :
      Silent g name m s (.trapped name)

theorem Tells.unique (told : g.Tells name m s reply m' s') (told' : g.Tells name m s reply' m'' s'') :
    reply = reply' ∧ m' = m'' ∧ s' = s'' := by
  obtain ⟨-, outcome, rfl, rfl⟩ := told
  obtain ⟨-, outcome', rfl, rfl⟩ := told'
  rw [outcome, Outcome.returned.injEq] at outcome'
  exact ⟨outcome', rfl, rfl⟩

theorem Silent.not_tells (silent : g.Silent name m s fault) : ¬ g.Tells name m s reply m' s' := by
  rintro ⟨function, outcome, -⟩
  cases silent with
  | notFunction other => exact other function
  | trapped _ trapped =>
      rw [trapped] at outcome
      cases outcome

end Guest

def SchemaVersion.number : SchemaVersion → Nat
  | .three => 3
  | .four => 4

namespace Reply

def IsNumber : Reply → Prop
  | .int _ => True
  | .float x => x.isNaN = false
  | _ => False

def IsPositive : Reply → Prop
  | .int n => 0 < n
  | .float x => x.isNaN = false ∧ x.negative = false ∧ x.isZero = false
  | _ => False

theorem version_unique {reply : Reply} {v w : SchemaVersion} (first : reply.isNumber v.number = true)
    (second : reply.isNumber w.number = true) : v = w := by
  have numbers : (v.number : Int) = w.number := by
    cases reply with
    | int n => simp_all [isNumber]
    | float x => simp_all [isNumber]
    | nothing => cases first
    | many values => cases first
  cases v <;> cases w <;> simp_all [SchemaVersion.number]

end Reply

def Transfer.size? : Transfer → Option Reply
  | .buffered size _ => some (.int size)
  | .fractional size => some (.float size)
  | .direct => none

namespace Load

variable {engine : Engine σ} {bytes : List UInt8} {g : Guest σ} {m m' : Memory} {s s' : σ} {v : SchemaVersion}
  {p : Plugin σ} {fault : LoadFault}

/-! ## What is asked of a module -/

def Started (engine : Engine σ) (bytes : List UInt8) (g : Guest σ) (m : Memory) (s : σ) : Prop :=
  ∃ imports, engine bytes = some ⟨imports, g, some (m, s)⟩

def versionName (g : Guest σ) : String :=
  if g.exports "dprint_plugin_version_4" ≠ none then "dprint_plugin_version_4" else "get_plugin_schema_version"

def Speaks (engine : Engine σ) (bytes : List UInt8) (g : Guest σ) (v : SchemaVersion) (m : Memory) (s : σ) : Prop :=
  ∃ m₀ s₀ reply, Started engine bytes g m₀ s₀ ∧ g.Tells (versionName g) m₀ s₀ reply m s ∧
    reply.isNumber v.number = true

def Numeric (engine : Engine σ) (bytes : List UInt8) : Prop :=
  ∀ {g m s size m' s'}, Speaks engine bytes g .three m s →
    g.Tells "get_wasm_memory_buffer_size" m s size m' s' → size.IsNumber

inductive Requirement where
  | header
  | compiles
  | imports
  | starts
  | memory
  | version
  | exports
  | buffer

def Requirement.place : Requirement → Nat
  | .header => 0
  | .compiles => 1
  | .imports => 2
  | .starts => 3
  | .memory => 4
  | .version => 5
  | .exports => 6
  | .buffer => 7

def Met (engine : Engine σ) (bytes : List UInt8) : Requirement → Prop
  | .header => moduleHeader <+: bytes
  | .compiles => engine bytes ≠ none
  | .imports => ∀ compiled, engine bytes = some compiled →
      ∀ i ∈ compiled.imports, i.space = hostSpace ∧ i.isFunction = true
  | .starts => ∃ g m s, Started engine bytes g m s
  | .memory => ∃ g m s, Started engine bytes g m s ∧ g.exports "memory" = some .memory
  | .version => ∃ g v m s, Speaks engine bytes g v m s
  | .exports => ∃ g v m s, Speaks engine bytes g v m s ∧ ∀ name ∈ v.exports, g.exports name ≠ none
  | .buffer => ∃ g v m s, Speaks engine bytes g v m s ∧ (v = .three →
      ∃ size m' s', g.Tells "get_wasm_memory_buffer_size" m s size m' s' ∧ size.IsPositive)

/-! ## What is reported -/

inductive Mute (g : Guest σ) (m : Memory) (s : σ) : LoadFault → Prop where
  | noVersion (newer : g.exports "dprint_plugin_version_4" = none)
      (older : g.exports "get_plugin_schema_version" = none) : Mute g m s .noVersion
  | silent {fault : CallFault} (exported : g.exports (versionName g) ≠ none)
      (silent : g.Silent (versionName g) m s fault) : Mute g m s (.call fault)
  | unsupported {reply : Reply} {m' : Memory} {s' : σ} (told : g.Tells (versionName g) m s reply m' s')
      (other : ∀ v : SchemaVersion, reply.isNumber v.number = false) : Mute g m s (.unsupportedVersion reply)

inductive Unbuffered (g : Guest σ) (m : Memory) (s : σ) : LoadFault → Prop where
  | silent {fault : CallFault} (silent : g.Silent "get_wasm_memory_buffer_size" m s fault) :
      Unbuffered g m s (.call fault)
  | empty {size : Reply} {m' : Memory} {s' : σ} (told : g.Tells "get_wasm_memory_buffer_size" m s size m' s')
      (small : ¬ size.IsPositive) : Unbuffered g m s .emptyBuffer

def Reports (engine : Engine σ) (bytes : List UInt8) (fault : LoadFault) : Requirement → Prop
  | .header => fault = if bytes = [] then .empty else .noHeader
  | .compiles => fault = .notCompiled
  | .imports => ∃ compiled before i after, engine bytes = some compiled ∧ compiled.imports = before ++ i :: after ∧
      (∀ j ∈ before, j.space = hostSpace ∧ j.isFunction = true) ∧ ¬ (i.space = hostSpace ∧ i.isFunction = true) ∧
      fault = .unsupportedImport i.space i.name
  | .starts => fault = .notStarted
  | .memory => fault = .noMemory
  | .version => ∃ g m s, Started engine bytes g m s ∧ Mute g m s fault
  | .exports => ∃ g v m s, Speaks engine bytes g v m s ∧
      fault = .missingExports (v.exports.filter fun name => (g.exports name).isNone)
  | .buffer => ∃ g m s, Speaks engine bytes g .three m s ∧ Unbuffered g m s fault

theorem Started.unique {g' : Guest σ} (started : Started engine bytes g m s)
    (started' : Started engine bytes g' m' s') : g = g' ∧ m = m' ∧ s = s' := by
  obtain ⟨imports, compiled⟩ := started
  obtain ⟨imports', compiled'⟩ := started'
  rw [compiled] at compiled'
  cases compiled'
  exact ⟨rfl, rfl, rfl⟩

theorem Speaks.unique {g' : Guest σ} {v' : SchemaVersion} (speaks : Speaks engine bytes g v m s)
    (speaks' : Speaks engine bytes g' v' m' s') : g = g' ∧ v = v' ∧ m = m' ∧ s = s' := by
  obtain ⟨m₀, s₀, reply, started, told, spoken⟩ := speaks
  obtain ⟨m₁, s₁, reply', started', told', spoken'⟩ := speaks'
  obtain ⟨rfl, rfl, rfl⟩ := started.unique started'
  obtain ⟨rfl, rfl, rfl⟩ := told.unique told'
  exact ⟨rfl, Reply.version_unique spoken spoken', rfl, rfl⟩

theorem Mute.not_speaks {reply : Reply} (mute : Mute g m s fault) (told : g.Tells (versionName g) m s reply m' s') :
    reply.isNumber v.number = false := by
  cases mute with
  | noVersion newer older =>
      have absent : g.exports (versionName g) = none := by simp [versionName, newer, older]
      rw [Guest.Tells, absent] at told
      cases told.1
  | silent _ silent => exact absurd told silent.not_tells
  | unsupported told' other =>
      obtain ⟨rfl, -, -⟩ := told.unique told'
      exact other v

theorem Unbuffered.not_positive {size : Reply} (unbuffered : Unbuffered g m s fault)
    (told : g.Tells "get_wasm_memory_buffer_size" m s size m' s') : ¬ size.IsPositive := by
  cases unbuffered with
  | silent silent => exact absurd told silent.not_tells
  | empty told' small =>
      obtain ⟨rfl, -, -⟩ := told.unique told'
      exact small

/-! ## One check after another -/

def Passes (engine : Engine σ) (bytes : List UInt8) (place : Nat) : Prop :=
  ∀ r : Requirement, r.place < place → Met engine bytes r

structure Decides (engine : Engine σ) (bytes : List UInt8) (r : Requirement) (fault : LoadFault) : Prop where
  passes : Passes engine bytes r.place
  unmet : ¬ Met engine bytes r
  reports : Reports engine bytes fault r

theorem Requirement.place_injective {r r' : Requirement} (same : r.place = r'.place) : r = r' := by
  cases r <;> cases r' <;> simp_all [place]

theorem Passes.next {r : Requirement} (passes : Passes engine bytes r.place) (met : Met engine bytes r) :
    Passes engine bytes (r.place + 1) := by
  intro r' before
  rcases Nat.lt_succ_iff_lt_or_eq.mp before with earlier | same
  · exact passes r' earlier
  · rw [Requirement.place_injective same]
    exact met

theorem Passes.all (passes : Passes engine bytes (Requirement.buffer.place + 1)) (r : Requirement) :
    Met engine bytes r :=
  passes r (by cases r <;> decide)

theorem unsupportedImport?_eq_some {imports : List Import} {i : Import} (odd : unsupportedImport? imports = some i) :
    ¬ (i.space = hostSpace ∧ i.isFunction = true) ∧ ∃ before after, imports = before ++ i :: after ∧
      ∀ j ∈ before, j.space = hostSpace ∧ j.isFunction = true := by
  obtain ⟨refused, before, after, listed, served⟩ := List.find?_eq_some_iff_append.mp odd
  refine ⟨?_, before, after, listed, fun j member => by simpa using served j member⟩
  rintro ⟨space, function⟩
  simp [space, function] at refused

theorem compile_cases (engine : Engine σ) (bytes : List UInt8) :
    (∃ g m s, compile engine bytes = .ok ⟨g, m, s, []⟩ ∧ Started engine bytes g m s ∧
      Passes engine bytes Requirement.memory.place) ∨
      ∃ r fault, compile engine bytes = .error fault ∧ Decides engine bytes r fault := by
  have start : Passes engine bytes Requirement.header.place := fun r before => absurd before (Nat.not_lt_zero _)
  by_cases header : moduleHeader <+: bytes
  swap
  · refine .inr ⟨.header, _, ?_, start, header, rfl⟩
    cases bytes <;> simp_all [compile]
  have filled : bytes ≠ [] := by
    rintro rfl
    simp [moduleHeader] at header
  have begun : Passes engine bytes Requirement.compiles.place := start.next header
  cases found : engine bytes with
  | none =>
      have run : compile engine bytes = .error .notCompiled := by simp [compile, filled, header, found]
      exact .inr ⟨.compiles, _, run, begun, by simp [Met, found], rfl⟩
  | some compiled =>
      have made : Passes engine bytes Requirement.imports.place := begun.next (by simp [Met, found])
      cases odd : unsupportedImport? compiled.imports with
      | some i =>
          have run : compile engine bytes = .error (.unsupportedImport i.space i.name) := by
            simp [compile, filled, header, found, odd]
          obtain ⟨refused, before, after, listed, served⟩ := unsupportedImport?_eq_some odd
          refine .inr ⟨.imports, _, run, made, ?_, compiled, before, i, after, found, listed, served, refused, rfl⟩
          exact fun met => refused (met compiled found i (by simp [listed]))
      | none =>
          have linked : Passes engine bytes Requirement.starts.place := by
            refine made.next fun other same i member => ?_
            obtain rfl := Option.some.inj (found.symm.trans same)
            simpa using List.find?_eq_none.mp odd i member
          obtain ⟨imports, g, start⟩ := compiled
          cases start with
          | none =>
              have run : compile engine bytes = .error .notStarted := by simp [compile, filled, header, found, odd]
              refine .inr ⟨.starts, _, run, linked, ?_, rfl⟩
              rintro ⟨g', m, s, _, other⟩
              rw [found] at other
              cases other
          | some pair =>
              have started : Started engine bytes g pair.1 pair.2 := ⟨imports, found⟩
              refine .inl ⟨g, pair.1, pair.2, ?_, started, linked.next ⟨g, _, _, started⟩⟩
              simp [compile, filled, header, found, odd]

theorem call_cases (name : String) (p : Plugin σ) :
    (∃ reply q, call name p = (.ok reply, q) ∧ q.guest = p.guest ∧
      p.guest.Tells name p.memory p.state reply q.memory q.state) ∨
      ∃ fault q, call name p = (.error (.load (.call fault)), q) ∧ p.guest.Silent name p.memory p.state fault := by
  by_cases function : p.guest.exports name = some .function
  swap
  · exact .inr ⟨_, p, by simp [call, Plugin.call, function], .notFunction function⟩
  cases outcome : (p.guest.call name [] p.memory p.state).outcome with
  | returned reply =>
      refine .inl ⟨reply, (call name p).2, ?_⟩
      simp [call, Plugin.call, function, outcome, Guest.Tells, Guest.Returns]
  | trapped =>
      refine .inr ⟨_, (call name p).2, ?_, .trapped function outcome⟩
      simp [call, Plugin.call, function, outcome]

theorem versionExport?_eq (g : Guest σ) :
    versionExport? g = if g.exports (versionName g) = none then none else some (versionName g) := by
  by_cases newer : g.exports "dprint_plugin_version_4" = none
  · by_cases older : g.exports "get_plugin_schema_version" = none <;>
      simp [versionExport?, versionName, newer, older, Option.isSome_iff_ne_none]
  · simp [versionExport?, versionName, newer, Option.isSome_iff_ne_none]

theorem version_cases (p : Plugin σ) :
    (∃ v q reply, version p = (.ok v, q) ∧ q.guest = p.guest ∧
      p.guest.Tells (versionName p.guest) p.memory p.state reply q.memory q.state ∧ reply.isNumber v.number = true) ∨
      ∃ fault q, version p = (.error (.load fault), q) ∧ Mute p.guest p.memory p.state fault := by
  rw [version, get_bind, versionExport?_eq]
  by_cases absent : p.guest.exports (versionName p.guest) = none
  · rw [if_pos absent]
    by_cases newer : p.guest.exports "dprint_plugin_version_4" = none
    · exact .inr ⟨_, p, rfl, .noVersion newer (by simpa [versionName, newer] using absent)⟩
    · exact absurd absent (by simp [versionName, newer])
  · rw [if_neg absent]
    dsimp only
    rcases call_cases (versionName p.guest) p with ⟨reply, q, run, guest, told⟩ | ⟨fault, q, run, silent⟩
    · rw [bind_ok run]
      by_cases three : reply.isNumber 3 = true
      · exact .inl ⟨.three, q, reply, by rw [if_pos three]; rfl, guest, told, three⟩
      by_cases four : reply.isNumber 4 = true
      · exact .inl ⟨.four, q, reply, by rw [if_neg three, if_pos four]; rfl, guest, told, four⟩
      · refine .inr ⟨_, q, by rw [if_neg three, if_neg four]; rfl, .unsupported told fun v => ?_⟩
        cases v
        · exact Bool.eq_false_iff.mpr three
        · exact Bool.eq_false_iff.mpr four
    · exact .inr ⟨_, q, bind_error run, .silent absent silent⟩

theorem transfer_three_cases (p : Plugin σ)
    (number : ∀ size m s, p.guest.Tells "get_wasm_memory_buffer_size" p.memory p.state size m s → size.IsNumber) :
    (∃ t q size, transfer .three p = (.ok t, q) ∧ q.guest = p.guest ∧ t.schema = 3 ∧ t.size? = some size ∧
      p.guest.Tells "get_wasm_memory_buffer_size" p.memory p.state size q.memory q.state ∧ size.IsPositive) ∨
      ∃ fault q, transfer .three p = (.error (.load fault), q) ∧ Unbuffered p.guest p.memory p.state fault := by
  rw [transfer]
  rcases call_cases "get_wasm_memory_buffer_size" p with ⟨size, q, run, guest, told⟩ | ⟨fault, q, run, silent⟩
  swap
  · exact .inr ⟨_, q, bind_error run, .silent silent⟩
  rw [bind_ok run]
  have numeric := number size _ _ told
  cases size with
  | int n =>
      dsimp only
      by_cases positive : 0 < n.toNat
      · have same : Transfer.size? (.buffered n.toNat positive) = some (.int n) := by simp [Transfer.size?]; omega
        have above : (0 : Int) < n := by omega
        exact .inl ⟨_, q, .int n, by rw [dif_pos positive]; rfl, guest, rfl, same, told, above⟩
      · refine .inr ⟨_, q, by rw [dif_neg positive]; rfl, .empty told fun above => positive ?_⟩
        exact Int.pos_iff_toNat_pos.mp above
  | float x =>
      dsimp only
      have real : x.isNaN = false := numeric
      by_cases small : x.atMostZero = true
      · refine .inr ⟨_, q, by rw [if_pos small]; rfl, .empty told ?_⟩
        rintro ⟨-, sign, zero⟩
        simp [Binary64.atMostZero, sign, zero] at small
      · have above : x.negative = false ∧ x.isZero = false := by simpa [Binary64.atMostZero, real] using small
        exact .inl ⟨_, q, .float x, by rw [if_neg small]; rfl, guest, rfl, rfl, told, real, above⟩
  | nothing => cases numeric
  | many values => cases numeric

def Settled (engine : Engine σ) (bytes : List UInt8) (t : Transfer) (q : Plugin σ) : Prop :=
  ∃ g v m s, Speaks engine bytes g v m s ∧ q.guest = g ∧ t.schema = v.number ∧ (v = .three →
    ∃ size, t.size? = some size ∧ g.Tells "get_wasm_memory_buffer_size" m s size q.memory q.state ∧ size.IsPositive)

def settle (v : SchemaVersion) : Host σ Transfer := do
  let found ← transfer v
  Host.log ("Plugin instance ready (schema version " ++ toString found.schema ++ ")")
  pure found

theorem inspect_settles {p : Plugin σ} (started : Started engine bytes p.guest p.memory p.state)
    (passes : Passes engine bytes Requirement.memory.place) :
    (∃ v q, inspect p = settle v q ∧ q.guest = p.guest ∧ Speaks engine bytes q.guest v q.memory q.state ∧
      (∀ name ∈ v.exports, q.guest.exports name ≠ none) ∧ Passes engine bytes Requirement.buffer.place) ∨
      ∃ r fault q, inspect p = (.error (.load fault), q) ∧ Decides engine bytes r fault := by
  rw [inspect, get_bind]
  by_cases memory : p.guest.exports "memory" = some .memory
  swap
  · refine .inr ⟨.memory, .noMemory, p, ?_, passes, ?_, rfl⟩
    · simp only [ne_eq, memory, not_false_eq_true, if_true]
      rfl
    · rintro ⟨g, m, s, other, found⟩
      obtain ⟨rfl, -, -⟩ := started.unique other
      exact memory found
  have seen : Passes engine bytes Requirement.version.place := passes.next ⟨_, _, _, started, memory⟩
  simp only [ne_eq, memory, not_true_eq_false, if_false]
  rcases version_cases p with ⟨v, q, reply, run, guest, told, spoken⟩ | ⟨fault, q, run, mute⟩
  swap
  · refine .inr ⟨.version, fault, q, bind_error run, seen, ?_, p.guest, _, _, started, mute⟩
    rintro ⟨g, v, m, s, m₀, s₀, reply, other, told, spoken⟩
    obtain ⟨rfl, rfl, rfl⟩ := started.unique other
    rw [mute.not_speaks told] at spoken
    cases spoken
  rw [bind_ok run]
  rw [← guest] at started told ⊢
  have speaks : Speaks engine bytes q.guest v q.memory q.state := ⟨_, _, reply, started, told, spoken⟩
  have versed : Passes engine bytes Requirement.exports.place := seen.next ⟨_, _, _, _, speaks⟩
  by_cases missing : v.exports.filter (fun name => (q.guest.exports name).isNone) = []
  · have present : ∀ name ∈ v.exports, q.guest.exports name ≠ none := by simpa using missing
    refine .inl ⟨v, q, ?_, rfl, speaks, present, versed.next ⟨_, _, _, _, speaks, present⟩⟩
    simp only [missing, List.isEmpty_nil, Bool.not_true, Bool.false_eq_true, if_false]
    rfl
  · refine .inr ⟨.exports, _, q, ?_, versed, ?_, _, v, _, _, speaks, rfl⟩
    · simp only [List.isEmpty_eq_false_iff.mpr missing, Bool.not_false, if_true]
      rfl
    · rintro ⟨g, w, m, s, other, present⟩
      obtain ⟨rfl, rfl, -⟩ := speaks.unique other
      exact missing (by simpa using present)

theorem settle_cases {q : Plugin σ} (speaks : Speaks engine bytes q.guest v q.memory q.state)
    (passes : Passes engine bytes Requirement.buffer.place) (numeric : Numeric engine bytes) :
    (∃ t r, settle v q = (.ok t, r) ∧ Settled engine bytes t r ∧ ∀ r, Met engine bytes r) ∨
      ∃ r fault q', settle v q = (.error (.load fault), q') ∧ Decides engine bytes r fault := by
  cases v with
  | four =>
      refine .inl ⟨.direct, _, rfl, ⟨_, .four, _, _, speaks, rfl, rfl, by simp⟩, ?_⟩
      exact (passes.next ⟨_, .four, _, _, speaks, by simp⟩).all
  | three =>
      rcases transfer_three_cases q (fun size _ _ => numeric speaks) with
        ⟨t, r, size, run, guest, schema, held, told, positive⟩ | ⟨fault, r, run, unbuffered⟩
      · have settled : Settled engine bytes t r :=
          ⟨_, .three, _, _, speaks, guest, schema, fun _ => ⟨size, held, told, positive⟩⟩
        refine .inl ⟨t, _, bind_ok run, settled, ?_⟩
        exact (passes.next ⟨_, .three, _, _, speaks, fun _ => ⟨size, _, _, told, positive⟩⟩).all
      · refine .inr ⟨.buffer, fault, r, bind_error run, passes, ?_, _, _, _, speaks, unbuffered⟩
        rintro ⟨g, w, m, s, other, sized⟩
        obtain ⟨rfl, rfl, rfl, rfl⟩ := speaks.unique other
        obtain ⟨size, m', s', told, positive⟩ := sized rfl
        exact unbuffered.not_positive told positive

end Load

namespace Formatter

open Load

variable {engine : Engine σ} {bytes : List UInt8}

theorem load_cases (patience : Nat) (numeric : Numeric engine bytes) :
    (∃ f : Formatter σ, (load engine patience bytes).1 = .ok f ∧ f.configured = false ∧ f.configId = 0 ∧
      Settled engine bytes f.transfer f.plugin ∧ ∀ r, Met engine bytes r) ∨
      ∃ r fault, (load engine patience bytes).1 = .error (.load fault) ∧ Decides engine bytes r fault := by
  rcases compile_cases engine bytes with ⟨g, m, s, compiled, started, passes⟩ | ⟨r, fault, compiled, decides⟩
  swap
  · exact .inr ⟨r, fault, by rw [load, compiled], decides⟩
  let p := Plugin.log ⟨g, m, s, []⟩ ("Compiled plugin module (" ++ toString bytes.length ++ " bytes)")
  have ready : Started engine bytes p.guest p.memory p.state := started
  rcases inspect_settles ready passes with ⟨v, q, inspected, -, speaks, -, passes⟩ | ⟨r, fault, q, run, decides⟩
  swap
  · exact .inr ⟨r, fault, by simp only [load, compiled]; rw [run], decides⟩
  rcases settle_cases speaks passes numeric with ⟨t, q', run, settled, met⟩ | ⟨r, fault, q', run, decides⟩
  · rw [← inspected] at run
    exact .inl ⟨⟨q', t, false, 0, patience⟩, by simp only [load, compiled]; rw [run], rfl, rfl, settled, met⟩
  · rw [← inspected] at run
    exact .inr ⟨r, fault, by simp only [load, compiled]; rw [run], decides⟩

/-- A module is loaded if and only if it meets all requirements. Otherwise the first one that it does not meet is
reported. What is loaded speaks the version that was told, has no configuration, and on schema 3 has the buffer whose
size was told, which is positive. -/
theorem loaded_iff_met (patience : Nat) (numeric : Numeric engine bytes) :
    ((∃ f, (load engine patience bytes).1 = .ok f) ↔ ∀ r, Met engine bytes r) ∧
    (∀ r, ¬ Met engine bytes r → (∀ r', r'.place < r.place → Met engine bytes r') →
      ∃ fault, (load engine patience bytes).1 = .error (.load fault) ∧ Reports engine bytes fault r) ∧
    ∀ f, (load engine patience bytes).1 = .ok f → (f.configured = false ∧ f.configId = 0) ∧
      ∃ g v m s, Speaks engine bytes g v m s ∧ f.plugin.guest = g ∧ f.schema = v.number ∧ (v = .three →
        ∃ size m' s', f.transfer.size? = some size ∧ g.Tells "get_wasm_memory_buffer_size" m s size m' s' ∧
          size.IsPositive) := by
  rcases load_cases patience numeric with ⟨f, loaded, fresh, first, settled, met⟩ | ⟨r, fault, failed, decides⟩
  · refine ⟨⟨fun _ => met, fun _ => ⟨f, loaded⟩⟩, fun r unmet _ => absurd (met r) unmet, fun f' loaded' => ?_⟩
    obtain rfl := Except.ok.inj (loaded.symm.trans loaded')
    obtain ⟨g, v, m, s, speaks, guest, schema, sized⟩ := settled
    refine ⟨⟨fresh, first⟩, g, v, m, s, speaks, guest, schema, fun three => ?_⟩
    obtain ⟨size, held, told, positive⟩ := sized three
    exact ⟨size, _, _, held, told, positive⟩
  · have unloaded : ∀ f, (load engine patience bytes).1 ≠ .ok f := by simp [failed]
    refine ⟨⟨fun loaded => ?_, fun met => absurd (met r) decides.unmet⟩, ?_, fun f loaded => absurd loaded (unloaded f)⟩
    · obtain ⟨f, loaded⟩ := loaded
      exact absurd loaded (unloaded f)
    · intro r' unmet before
      have same : r' = r := by
        apply Requirement.place_injective
        rcases Nat.lt_trichotomy r'.place r.place with less | same | more
        · exact absurd (decides.passes r' less) unmet
        · exact same
        · exact absurd (before r more) decides.unmet
      exact ⟨fault, failed, same ▸ decides.reports⟩

/-! ## Two defects at once -/

def stunted : Guest Reference.State :=
  let whole := Reference.guest (fun _ _ _ _ => (0, [])) (.buffered 1 Nat.one_pos)
  { whole with exports := fun name =>
      if name = "set_plugin_config" ∨ name = "clear_shared_bytes" then none else whole.exports name }

def stuntedEngine : Engine Reference.State := fun _ =>
  some ⟨[⟨hostSpace, "fd_write", true⟩], stunted, some (Memory.blank 0, Reference.idle)⟩

theorem missing_exports_reported :
    ¬ Met stuntedEngine moduleHeader .buffer ∧ ∃ fault, (load stuntedEngine 0 moduleHeader).1 = .error (.load fault) ∧
      fault.message = "Plugin module is missing required exports: clear_shared_bytes, set_plugin_config" := by
  have started : Started stuntedEngine moduleHeader stunted (Memory.blank 0) Reference.idle := ⟨_, rfl⟩
  have speaks : Speaks stuntedEngine moduleHeader stunted .three (Memory.blank 0) Reference.idle :=
    ⟨_, _, .int 3, started, ⟨rfl, rfl, rfl, rfl⟩, rfl⟩
  have sized : stunted.Tells "get_wasm_memory_buffer_size" (Memory.blank 0) Reference.idle (.int 0) _ _ :=
    ⟨rfl, rfl, rfl, rfl⟩
  have numeric : Numeric stuntedEngine moduleHeader := by
    intro g m s size m' s' other told
    obtain ⟨rfl, -, rfl, rfl⟩ := speaks.unique other
    obtain ⟨rfl, -, -⟩ := sized.unique told
    trivial
  have unbuffered : ¬ Met stuntedEngine moduleHeader .buffer := by
    rintro ⟨g, v, m, s, other, positive⟩
    obtain ⟨rfl, rfl, rfl, rfl⟩ := speaks.unique other
    obtain ⟨size, m', s', told, above⟩ := positive rfl
    obtain ⟨rfl, -, -⟩ := sized.unique told
    cases above
  have incomplete : ¬ Met stuntedEngine moduleHeader .exports := by
    rintro ⟨g, v, m, s, other, present⟩
    obtain ⟨rfl, rfl, -⟩ := speaks.unique other
    exact present "clear_shared_bytes" (by decide) rfl
  have earlier : ∀ r : Requirement, r.place < Requirement.exports.place → Met stuntedEngine moduleHeader r := by
    intro r before
    cases r with
    | header => exact List.prefix_refl _
    | compiles => exact Option.some_ne_none _
    | imports =>
        intro compiled same
        obtain rfl := Option.some.inj same
        decide
    | starts => exact ⟨_, _, _, started⟩
    | memory => exact ⟨_, _, _, started, rfl⟩
    | version => exact ⟨_, _, _, _, speaks⟩
    | exports => exact absurd before (by decide)
    | buffer => exact absurd before (by decide)
  obtain ⟨fault, failed, g, v, m, s, other, rfl⟩ := (loaded_iff_met 0 numeric).2.1 .exports incomplete earlier
  obtain ⟨rfl, rfl, -⟩ := speaks.unique other
  exact ⟨unbuffered, _, failed, by decide⟩

end Formatter

end PluginKit
