import Mathlib.Data.List.Induction
import PluginKit.Proofs.Plugin.Silent

/-!
Which configuration a plugin has when it is asked for something that depends on one. A configuration is handed
over in several calls. If they break off, the old one may be gone already while the formatter goes on as if it
were in force.
-/

namespace PluginKit

variable {σ κ : Type}

open Activity Abi

/-! ## Attempts to configure -/

/-- The configuration that was set last, and what was meant for all plugins in the attempts since then, which
failed. -/
structure Attempts where
  last : Configuration
  failed : List Fields

namespace Attempts

def after (a : Attempts) (operation : Operation) (result : Operation.Result) : Attempts :=
  match operation with
  | .configure globals plugin => match globals.toFields, plugin.toMapping, result with
    | .ok globalFields, .ok pluginFields, .ok _ => ⟨⟨globalFields, pluginFields⟩, []⟩
    | .ok globalFields, .ok _, .error _ => { a with failed := a.failed ++ [globalFields] }
    | _, _, _ => a
  | _ => a

def of (history : List (Operation × Operation.Result)) : Attempts :=
  history.foldl (fun a step => a.after step.1 step.2) ⟨.empty, []⟩

theorem of_concat (history : List (Operation × Operation.Result)) (operation : Operation)
    (result : Operation.Result) : of (history ++ [(operation, result)]) = (of history).after operation result := by
  simp only [of, List.foldl_append, List.foldl_cons, List.foldl_nil]

end Attempts

/-! ## Configurations in force, and torn ones -/

namespace Ledger

variable {l l' : Ledger} {transfer : Transfer} {args : List Int} {c : Configuration} {a : Attempts}

/-- What a failed attempt may leave. On schema 4 nothing goes by the number. On schema 3 there is nothing, or the
part for all plugins is that of the attempt and the other one is missing or old. -/
def Torn (l : Ledger) (transfer : Transfer) (args : List Int) (a : Attempts) : Prop :=
  a.failed ≠ [] ∧ match transfer with
    | .direct => ∃ id, args = [id] ∧ l.registered id = none
    | _ => l.globals = none ∧ l.plugin = none ∨
      ∃ globals ∈ a.failed, l.globals = some (Json.bytes (.object globals)) ∧
        (l.plugin = none ∨ l.plugin = some (Json.bytes (.object a.last.plugin)))

theorem torn_congr (globals : l'.globals = l.globals) (plugin : l'.plugin = l.plugin)
    (registered : l'.registered = l.registered) : l'.Torn transfer args a ↔ l.Torn transfer args a := by
  cases transfer <;> simp only [Torn, globals, plugin, registered]

theorem inForce_of_ne_direct (other : transfer ≠ .direct) : l.InForce transfer args c ↔
    l.globals = some (Json.bytes (.object c.globals)) ∧ l.plugin = some (Json.bytes (.object c.plugin)) := by
  cases transfer with
  | direct => exact absurd rfl other
  | buffered size positive => exact Iff.rfl
  | fractional x => exact Iff.rfl

theorem torn_of_ne_direct (other : transfer ≠ .direct) : l.Torn transfer args a ↔
    a.failed ≠ [] ∧ (l.globals = none ∧ l.plugin = none ∨
      ∃ globals ∈ a.failed, l.globals = some (Json.bytes (.object globals)) ∧
        (l.plugin = none ∨ l.plugin = some (Json.bytes (.object a.last.plugin)))) := by
  cases transfer with
  | direct => exact absurd rfl other
  | buffered size positive => exact Iff.rfl
  | fractional x => exact Iff.rfl

theorem Torn.more {failed : List Fields} (torn : l.Torn transfer args a) (more : a.failed ⊆ failed) :
    l.Torn transfer args ⟨a.last, failed⟩ := by
  have filled : failed ≠ [] := fun empty => torn.1 (List.subset_nil.mp (empty ▸ more))
  by_cases direct : transfer = .direct
  · subst direct
    exact ⟨filled, torn.2⟩
  · rw [torn_of_ne_direct direct] at torn ⊢
    exact ⟨filled, torn.2.imp_right fun ⟨globals, member, found⟩ => ⟨globals, more member, found⟩⟩

theorem config_call (l : Ledger) (name : String) (args : List Int) (shared : List UInt8) (returned : Bool)
    (idle : ¬(returned = true ∧ name ∈ Formatter.configCalls)) :
    (l.call name args shared returned).globals = l.globals ∧ (l.call name args shared returned).plugin = l.plugin ∧
      (l.call name args shared returned).registered = l.registered := by
  by_cases formats : name = "format"
  · subst formats
    rw [call_format]
    exact ⟨rfl, rfl, rfl⟩
  · rw [call, if_neg formats]
    cases returned with
    | false => exact ⟨rfl, rfl, rfl⟩
    | true =>
        simp only [if_true]
        unfold after
        split <;> simp_all [Formatter.configCalls]

end Ledger

namespace Contact

def settled (contacts : List Contact) : Bool :=
  contacts.foldl (fun before c => if c.returned ∧ c.name ∈ Formatter.configCalls
    then c.name = "register_config" ∨ c.name = "set_plugin_config" else before) false

theorem settled_concat (contacts : List Contact) (c : Contact) :
    settled (contacts ++ [c]) = if c.returned ∧ c.name ∈ Formatter.configCalls
      then decide (c.name = "register_config" ∨ c.name = "set_plugin_config") else settled contacts := by
  simp only [settled, List.foldl_append, List.foldl_cons, List.foldl_nil]

def readers : List String := ["format", "get_resolved_config", "get_config_diagnostics", "release_config"]

/-- A plugin that was told all this has the last configuration in force if it is settled, and a torn one if not. -/
def Meets (contacts : List Contact) (transfer : Transfer) (args : List Int) (a : Attempts) : Prop :=
  if settled contacts then (Ledger.of contacts).InForce transfer args a.last
  else (Ledger.of contacts).Torn transfer args a

variable {contacts : List Contact} {transfer : Transfer} {args : List Int} {a : Attempts}

theorem Meets.of_inForce (complete : settled contacts = true)
    (inForce : (Ledger.of contacts).InForce transfer args a.last) : Meets contacts transfer args a := by
  rwa [Meets, if_pos complete]

theorem Meets.of_torn (incomplete : settled contacts = false) (torn : (Ledger.of contacts).Torn transfer args a) :
    Meets contacts transfer args a := by
  rwa [Meets, if_neg (Bool.eq_false_iff.mp incomplete)]

theorem Meets.more {failed : List Fields} (meets : Meets contacts transfer args a) (more : a.failed ⊆ failed) :
    Meets contacts transfer args ⟨a.last, failed⟩ := by
  unfold Meets at *
  split
  · rwa [if_pos ‹_›] at meets
  · rw [if_neg ‹_›] at meets
    exact meets.more more

theorem Meets.plugin (meets : Meets contacts transfer args a) (other : transfer ≠ .direct) :
    (Ledger.of contacts).plugin = none ∨
      (Ledger.of contacts).plugin = some (Json.bytes (.object a.last.plugin)) := by
  unfold Meets at meets
  split at meets
  · rw [Ledger.inForce_of_ne_direct other] at meets
    exact .inr meets.2
  · rw [Ledger.torn_of_ne_direct other] at meets
    obtain ⟨-, ⟨-, lost⟩ | ⟨_, -, -, kept⟩⟩ := meets
    · exact .inl lost
    · exact kept

theorem meets_concat {d : Contact} (idle : ¬(d.returned = true ∧ d.name ∈ Formatter.configCalls)) :
    Meets (contacts ++ [d]) transfer args a ↔ Meets contacts transfer args a := by
  obtain ⟨globals, plugin, registered⟩ :=
    (Ledger.of contacts).config_call d.name d.args d.shared d.returned idle
  unfold Meets
  rw [settled_concat, if_neg idle, Ledger.of_append, Ledger.inForce_congr globals plugin registered,
    Ledger.torn_congr globals plugin registered]

end Contact

namespace Formatter

variable {g : Guest σ} {v : View σ κ} {transfer : Transfer} {start : Nat} {P : List Contact → Contact → Prop}
  {a : Attempts} {failed : List Fields} {c : Configuration} {h : Formatter (σ × List Contact)}
  {q : Plugin (σ × List Contact)} {d : Contact}

/-! ## Where a formatter stands -/

structure Orderly (g : Guest σ) (v : View σ κ) (transfer : Transfer) (start : Nat)
    (P : List Contact → Contact → Prop) (h : Formatter (σ × List Contact)) : Prop where
  watched : h.Watched g v transfer
  since : Contact.Since start P h.contacts
  free : ∀ n : Int, (h.configId : Int) < n → (Ledger.of h.contacts).registered n = none

theorem contacts_tells {contacts : List Contact} (told : h.plugin.Tells v contacts q) :
    Formatter.contacts { h with plugin := q } = h.contacts ++ contacts := told.noted

theorem Orderly.contact (orderly : h.Orderly g v transfer start P) (told : h.plugin.Tells v [d] q)
    (expected : P h.contacts d)
    (same : ∀ n : Int, (h.configId : Int) < n → ((Ledger.of h.contacts).call d.name d.args d.shared
      d.returned).registered n = (Ledger.of h.contacts).registered n) :
    Orderly g v transfer start P { h with plugin := q } := by
  refine ⟨orderly.watched.tells told, ?_, fun n beyond => ?_⟩
  · rw [contacts_tells told]
    exact orderly.since.concat expected
  · rw [contacts_tells told, Ledger.of_append, same n beyond]
    exact orderly.free n beyond

structure Stands (g : Guest σ) (v : View σ κ) (transfer : Transfer) (start : Nat)
    (P : List Contact → Contact → Prop) (a : Attempts) (h : Formatter (σ × List Contact)) : Prop
    extends Orderly g v transfer start P h where
  fresh : h.configured = false → a.last = .empty
  meets : h.configured = true → Contact.Meets h.contacts transfer h.configArgs a

theorem Stands.more (stands : h.Stands g v transfer start P a) (more : a.failed ⊆ failed) :
    h.Stands g v transfer start P ⟨a.last, failed⟩ :=
  ⟨stands.toOrderly, stands.fresh, fun configured => (stands.meets configured).more more⟩

theorem Stands.restart {Q : List Contact → Contact → Prop} (stands : h.Stands g v transfer start P a) :
    h.Stands g v transfer h.contacts.length Q a :=
  ⟨⟨stands.watched, .of_length_le le_rfl, stands.free⟩, stands.fresh, stands.meets⟩

theorem Stands.silent (stands : h.Stands g v transfer start P a) (told : h.plugin.Tells v [] q) :
    Stands g v transfer start P a { h with plugin := q } := by
  have same : Formatter.contacts { h with plugin := q } = h.contacts := told.noted.trans (List.append_nil _)
  exact ⟨⟨stands.watched.tells told, same ▸ stands.since, same ▸ stands.free⟩, stands.fresh, same ▸ stands.meets⟩

theorem Stands.idle (stands : h.Stands g v transfer start P a) (told : h.plugin.Tells v [d] q)
    (expected : P h.contacts d) (idle : ¬(d.returned = true ∧ d.name ∈ configCalls)) :
    Stands g v transfer start P a { h with plugin := q } := by
  obtain ⟨-, -, registered⟩ := (Ledger.of h.contacts).config_call d.name d.args d.shared d.returned idle
  refine ⟨stands.contact told expected fun n _ => by rw [registered], stands.fresh, fun configured => ?_⟩
  rw [contacts_tells told, Contact.meets_concat idle]
  exact stands.meets configured

theorem Stands.trapped (stands : h.Stands g v transfer start P a) {name : String} {args : List Int}
    {shared : List UInt8} (told : h.plugin.Tells v [⟨name, args, shared, false⟩] q)
    (expected : P h.contacts ⟨name, args, shared, false⟩) : Stands g v transfer start P a { h with plugin := q } :=
  stands.idle told expected fun both => Bool.false_ne_true both.1

def Steady (g : Guest σ) (v : View σ κ) (transfer : Transfer) (start : Nat) (P : List Contact → Contact → Prop)
    (a : Attempts) (h : Formatter (σ × List Contact)) : Prop :=
  h.Stands g v transfer start P a ∧ h.configured = true

theorem Steady.stands (h : Formatter (σ × List Contact)) (steady : h.Steady g v transfer start P a) :
    h.Stands g v transfer start P a := steady.1

def idleCalls : List String := hostCalls.filter fun name => name ∉ configCalls ∧ name ∉ Contact.readers

theorem mem_idleCalls {name : String} : name ∈ idleCalls ↔
    name ∈ hostCalls ∧ name ∉ configCalls ∧ name ∉ Contact.readers := by
  simp [idleCalls]

def MetBy (transfer : Transfer) (a : Attempts) (before : List Contact) (d : Contact) : Prop :=
  d.name ∈ Contact.readers → Contact.Meets before transfer d.args a

theorem metBy_of_not_mem {before : List Contact} (other : d.name ∉ Contact.readers) : MetBy transfer a before d :=
  fun reads => absurd reads other

theorem stands_tolerates (g : Guest σ) (v : View σ κ) (transfer : Transfer) (start : Nat) (a : Attempts) :
    Tolerates g v transfer idleCalls (Stands g v transfer start (MetBy transfer a) a) where
  watched stands := stands.watched
  silent := Stands.silent
  contact {h q d} stands member told := by
    obtain ⟨-, other, idle⟩ := mem_idleCalls.mp member
    exact stands.idle told (metBy_of_not_mem idle) fun both => other both.2

theorem steady_tolerates (g : Guest σ) (v : View σ κ) (transfer : Transfer) (start : Nat) (a : Attempts) :
    Tolerates g v transfer idleCalls (Steady g v transfer start (MetBy transfer a) a) where
  watched steady := steady.1.watched
  silent steady told := ⟨steady.1.silent told, steady.2⟩
  contact steady member told := ⟨(stands_tolerates g v transfer start a).contact steady.1 member told, steady.2⟩

/-! ## Handing over a configuration -/

structure Settled (g : Guest σ) (v : View σ κ) (transfer : Transfer) (start : Nat)
    (P : List Contact → Contact → Prop) (c : Configuration) (h : Formatter (σ × List Contact)) : Prop
    extends Orderly g v transfer start P h where
  settled : Contact.settled h.contacts = true
  inForce : (Ledger.of h.contacts).InForce transfer h.configArgs c

theorem Settled.mark (settled : h.Settled g v transfer start P c) :
    Steady g v transfer start P ⟨c, failed⟩ { h with configured := true } := by
  have watched : Watched g v transfer { h with configured := true } :=
    ⟨settled.watched.guest, settled.watched.transfer, settled.watched.sound⟩
  have meets : Contact.Meets h.contacts transfer h.configArgs ⟨c, failed⟩ := .of_inForce settled.settled settled.inForce
  exact ⟨⟨⟨watched, settled.since, settled.free⟩, fun idle => Bool.noConfusion idle, fun _ => meets⟩, rfl⟩

structure Released (g : Guest σ) (v : View σ κ) (start : Nat) (P : List Contact → Contact → Prop) (a : Attempts)
    (h : Formatter (σ × List Contact)) : Prop extends Orderly g v .direct start P h where
  fresh : h.configured = false → a.last = .empty
  unsettled : h.configured = true → Contact.settled h.contacts = false ∧ a.failed ≠ []

theorem configArgs_direct (direct : h.transfer = .direct) : h.configArgs = [(h.configId : Int)] := by
  rw [configArgs, direct]

theorem Released.renumber (released : h.Released g v start P a) :
    Stands g v .direct start P a { h with configId := h.configId + 1 } := by
  have watched : Watched g v .direct { h with configId := h.configId + 1 } :=
    ⟨released.watched.guest, released.watched.transfer, released.watched.sound⟩
  refine ⟨⟨watched, released.since, fun n beyond => released.free n ?_⟩, released.fresh, fun configured => ?_⟩
  · push_cast at beyond
    omega
  · -- The formatter still counts as configured, under a number that nothing has gone by yet.
    obtain ⟨unsettled, failed⟩ := released.unsettled configured
    refine .of_torn unsettled ⟨failed, _, configArgs_direct watched.transfer, released.free _ ?_⟩
    push_cast
    omega

theorem releaseConfig_leads (upholds : Upholds g v) (more : a.failed ⊆ failed) :
    Leads (fun h => Stands g v .direct start (MetBy .direct a) a h ∧ (h.configured = true → failed ≠ []))
      (Released g v start (MetBy .direct a) ⟨a.last, failed⟩)
      (Stands g v .direct start (MetBy .direct a) ⟨a.last, failed⟩) releaseConfig := by
  refine .get_bind fun f ⟨stands, attempted⟩ => ?_
  split
  · rename_i configured
    refine .bind (K := Released g v start (MetBy .direct a) ⟨a.last, failed⟩) ?_
      fun _ => .pure _ fun _ released => released
    have expected : ∀ shared returned,
        MetBy .direct a f.contacts ⟨"release_config", [(f.configId : Int)], shared, returned⟩ := by
      intro shared returned _
      rw [← configArgs_direct stands.watched.transfer]
      exact stands.meets configured
    refine leads_of_tries
      (fun h same => call_tries upholds (same ▸ stands.watched) (by simp [hostCalls]) _ _) ?_ ?_ ?_
    · rintro h q rfl told
      exact (stands.silent told).more more
    · rintro h q rfl told
      exact (stands.trapped told (expected _ _)).more more
    · -- From here on there is no way back to the configuration that was set last.
      rintro h q rfl told
      refine ⟨stands.contact told (expected _ _) fun n beyond => ?_, stands.fresh, fun _ => ⟨?_, attempted configured⟩⟩
      · simp only [Ledger.call_release]
        rw [if_neg (by omega)]
      · rw [contacts_tells told, Contact.settled_concat]
        rfl
  · rename_i unconfigured
    refine .pure _ ?_
    rintro h rfl
    exact ⟨stands.toOrderly, stands.fresh, fun configured => absurd configured unconfigured⟩

theorem stands_leads {α : Type} {name : String} {args : Formatter (σ × List Contact) → List Int}
    {shared : Formatter (σ × List Contact) → List UInt8} {x : Op (σ × List Contact) α}
    {I K : Formatter (σ × List Contact) → Prop} {b : Attempts} (other : name ∉ Contact.readers)
    (stands : ∀ h, I h → Stands g v transfer start (MetBy transfer a) b h)
    (tries : ∀ h, I h → h.Tries v (fun returned => ⟨name, args h, shared h, returned⟩) x)
    (returned : ∀ h q, I h → h.plugin.Tells v [⟨name, args h, shared h, true⟩] q →
      MetBy transfer a h.contacts ⟨name, args h, shared h, true⟩ → K { h with plugin := q }) :
    Leads I K (Stands g v transfer start (MetBy transfer a) b) x := by
  refine leads_of_tries tries ?_ ?_ ?_
  · exact fun h q holds told => (stands h holds).silent told
  · exact fun h q holds told => (stands h holds).trapped told (metBy_of_not_mem other)
  · exact fun h q holds told => returned h q holds told (metBy_of_not_mem other)

theorem register_leads (carries : Carries g v .direct) (upholds : Upholds g v) (b : Attempts) (c : Configuration) :
    Leads (Stands g v .direct start (MetBy .direct a) b) (Settled g v .direct start (MetBy .direct a) c)
      (Stands g v .direct start (MetBy .direct a) b) (register c.record) := by
  refine stands_leads (by simp [Contact.readers]) (fun _ => id)
    (fun h stands => register_tries carries upholds stands.watched _) ?_
  intro h q stands told expected
  refine ⟨stands.contact told expected fun n beyond => ?_, ?_, _, configArgs_direct stands.watched.transfer, ?_⟩
  · simp only [Ledger.call_register]
    rw [if_neg (by omega)]
  · rw [contacts_tells told, Contact.settled_concat]
    rfl
  · rw [contacts_tells told, Ledger.of_append]
    simp only [Ledger.call_register, if_true]

theorem resetConfig_leads (upholds : Upholds g v) (other : transfer ≠ .direct) (b : Attempts) (globals : Fields) :
    Leads (fun h => Stands g v transfer start (MetBy transfer a) b h ∧ (h.configured = true → globals ∈ b.failed))
      (fun h => Stands g v transfer start (MetBy transfer a) b h ∧ (h.configured = true → globals ∈ b.failed))
      (Stands g v transfer start (MetBy transfer a) b) resetConfig := by
  refine .get_bind fun f ⟨stands, attempted⟩ => ?_
  split
  · refine .bind (K := fun h => Stands g v transfer start (MetBy transfer a) b h ∧
      (h.configured = true → globals ∈ b.failed)) ?_ fun _ => .pure _ fun _ stands => stands
    refine stands_leads (by simp [Contact.readers]) (fun h same => same ▸ stands)
      (fun h same => call_tries upholds (same ▸ stands.watched) (by simp [hostCalls]) _ _) ?_
    rintro h q rfl told expected
    refine ⟨⟨stands.contact told expected fun n _ => rfl, stands.fresh, fun configured => .of_torn ?_ ?_⟩, attempted⟩
    · rw [contacts_tells told, Contact.settled_concat]
      rfl
    · rw [contacts_tells told, Ledger.of_append, Ledger.torn_of_ne_direct other]
      exact ⟨List.ne_nil_of_mem (attempted configured), .inl ⟨rfl, rfl⟩⟩
  · exact .pure _ fun h same => same ▸ ⟨stands, attempted⟩

theorem setGlobals_leads (carries : Carries g v transfer) (upholds : Upholds g v) (other : transfer ≠ .direct)
    (b : Attempts) (globals : Fields) :
    Leads (fun h => Stands g v transfer start (MetBy transfer a) b h ∧ (h.configured = true → globals ∈ b.failed))
      (fun h => Stands g v transfer start (MetBy transfer a) b h ∧
        (Ledger.of h.contacts).globals = some (Json.bytes (.object globals)))
      (Stands g v transfer start (MetBy transfer a) b) (handOver .running (.object globals) "set_global_config") := by
  refine stands_leads (by simp [Contact.readers]) (fun _ => And.left)
    (fun h ⟨stands, _⟩ => handOver_tries carries upholds stands.watched (by simp [hostCalls]) _ _) ?_
  rintro h q ⟨stands, attempted⟩ told expected
  refine ⟨⟨stands.contact told expected fun n _ => rfl, stands.fresh, fun configured => .of_torn ?_ ?_⟩, ?_⟩
  · rw [contacts_tells told, Contact.settled_concat]
    rfl
  · -- The part for the plugin itself is not touched: it is missing, or that of the configuration set last.
    have member := attempted configured
    rw [contacts_tells told, Ledger.of_append, Ledger.torn_of_ne_direct other]
    exact ⟨List.ne_nil_of_mem member, .inr ⟨globals, member, rfl, (stands.meets configured).plugin other⟩⟩
  · rw [contacts_tells told, Ledger.of_append]
    rfl

theorem setPlugin_leads (carries : Carries g v transfer) (upholds : Upholds g v) (other : transfer ≠ .direct)
    (b : Attempts) (c : Configuration) :
    Leads (fun h => Stands g v transfer start (MetBy transfer a) b h ∧
        (Ledger.of h.contacts).globals = some (Json.bytes (.object c.globals)))
      (Settled g v transfer start (MetBy transfer a) c) (Stands g v transfer start (MetBy transfer a) b)
      (handOver .running (.object c.plugin) "set_plugin_config") := by
  refine stands_leads (by simp [Contact.readers]) (fun _ => And.left)
    (fun h ⟨stands, _⟩ => handOver_tries carries upholds stands.watched (by simp [hostCalls]) _ _) ?_
  rintro h q ⟨stands, globals⟩ told expected
  refine ⟨stands.contact told expected fun n _ => rfl, ?_, ?_⟩
  · rw [contacts_tells told, Contact.settled_concat]
    rfl
  · rw [contacts_tells told, Ledger.of_append, Ledger.inForce_of_ne_direct other]
    exact ⟨globals, rfl⟩

theorem handConfig_leads (carries : Carries g v transfer) (upholds : Upholds g v) (more : a.failed ⊆ failed)
    (c : Configuration) :
    Leads (fun h => Stands g v transfer start (MetBy transfer a) a h ∧ (h.configured = true → c.globals ∈ failed))
      (Settled g v transfer start (MetBy transfer a) c) (Stands g v transfer start (MetBy transfer a) ⟨a.last, failed⟩)
      (handConfig c.globals c.plugin) := by
  refine .get_bind fun f ⟨stands, attempted⟩ => ?_
  have same : f.transfer = transfer := stands.watched.transfer
  have replaced : transfer ≠ .direct → Leads (· = f) (Settled g v transfer start (MetBy transfer a) c)
      (Stands g v transfer start (MetBy transfer a) ⟨a.last, failed⟩) (replaceConfig c.globals c.plugin) := by
    intro other
    rw [replaceConfig_eq]
    refine .bind ((resetConfig_leads upholds other ⟨a.last, failed⟩ c.globals).imp ?_ fun _ => id) fun _ =>
      .bind (setGlobals_leads carries upholds other _ c.globals) fun _ =>
      setPlugin_leads carries upholds other _ c
    rintro h rfl
    exact ⟨stands.more more, attempted⟩
  rw [same]
  cases transfer with
  | direct =>
      rw [registerConfig_eq]
      refine .bind ((releaseConfig_leads upholds more).imp ?_ fun _ => id) fun _ =>
        .bind (K := Stands g v .direct start (MetBy .direct a) ⟨a.last, failed⟩)
          (fun h released => released.renumber) fun _ => register_leads carries upholds _ c
      rintro h rfl
      exact ⟨stands, fun configured => List.ne_nil_of_mem (attempted configured)⟩
  | buffered size positive => exact replaced (by simp)
  | fractional x => exact replaced (by simp)

theorem applyConfig_leads (carries : Carries g v transfer) (upholds : Upholds g v) (more : a.failed ⊆ failed)
    (c : Configuration) (later : List Fields) :
    Leads (fun h => Stands g v transfer start (MetBy transfer a) a h ∧ (h.configured = true → c.globals ∈ failed))
      (Steady g v transfer start (MetBy transfer a) ⟨c, later⟩)
      (Stands g v transfer start (MetBy transfer a) ⟨a.last, failed⟩) (applyConfig c.globals c.plugin) := by
  rw [applyConfig_eq]
  refine .bind (handConfig_leads carries upholds more c) fun _ =>
    .bind (K := Steady g v transfer start (MetBy transfer a) ⟨c, later⟩) (fun h settled => settled.mark) fun _ => ?_
  rintro h ⟨stands, configured⟩
  exact ⟨stands.silent ⟨rfl, stands.watched.sound, (List.append_nil _).symm⟩, configured⟩

theorem ensureConfig_leads (carries : Carries g v transfer) (upholds : Upholds g v) :
    Leads (Stands g v transfer start (MetBy transfer a) a) (Steady g v transfer start (MetBy transfer a) a)
      (Stands g v transfer start (MetBy transfer a) a) ensureConfig := by
  refine .get_bind fun f stands => ?_
  split
  · rename_i configured
    exact .pure _ fun h same => same ▸ ⟨stands, configured⟩
  · -- The empty configuration is due, so this attempt changes nothing about what was set last.
    rename_i unconfigured
    obtain ⟨last, failed⟩ := a
    obtain rfl : last = .empty := stands.fresh (Bool.eq_false_iff.mpr unconfigured)
    rintro h rfl
    exact applyConfig_leads carries upholds (List.Subset.refl failed) .empty failed h
      ⟨stands, fun configured => absurd configured unconfigured⟩

/-! ## Operations -/

structure Guards (g : Guest σ) (v : View σ κ) (transfer : Transfer) (I K : Formatter (σ × List Contact) → Prop) :
    Prop where
  loose : Tolerates g v transfer idleCalls I
  tight : Tolerates g v transfer idleCalls K
  weaken : ∀ h, K h → I h
  ensures : Leads I K I ensureConfig
  reads : ∀ {name h}, name ∈ ["format", "get_resolved_config", "get_config_diagnostics"] → K h → ∀ stage,
    Leads (· = h) K I (call stage name h.configArgs)

section

variable {I K : Formatter (σ × List Contact) → Prop}

theorem Guards.ask {name : String} (guards : Guards g v transfer I K) (conveys : Conveys g v transfer)
    (member : name ∈ ["get_resolved_config", "get_config_diagnostics"]) : Leads I I I (ask name) := by
  refine .bind guards.ensures fun _ => .get_bind fun f tight => ?_
  rw [receiveFrom_eq]
  refine .bind (.bind (guards.reads (List.mem_cons_of_mem _ member) tight .running) fun length =>
    (guards.tight.receive conveys .running length).leads guards.weaken guards.weaken) fun text => ?_
  unfold parseReply
  split
  · exact .pure _ fun _ => id
  · exact .throw _ fun _ => id

theorem Guards.formatRequest (guards : Guards g v transfer I K) (conveys : Conveys g v transfer)
    (upholds : Upholds g v) (r : FormatRequest) : Leads I I I (formatRequest r) := by
  have idle : ∀ {name : String}, name ∈ ["set_override_config", "set_file_path", "get_formatted_text",
      "get_error_text"] → name ∈ idleCalls := by decide
  have tight := guards.tight
  refine .bind guards.ensures fun _ => ?_
  refine .bind ((tight.sendOverride conveys upholds (idle (by simp)) r).leads (fun _ => id) guards.weaken) fun _ => ?_
  refine .bind ((tight.send conveys _ _).leads (fun _ => id) guards.weaken) fun _ => ?_
  refine .bind ((tight.call upholds (by simp [hostCalls]) (idle (by simp)) _ _).leads (fun _ => id) guards.weaken)
    fun _ => ?_
  refine .bind ((tight.send conveys _ _).leads (fun _ => id) guards.weaken) fun _ => .get_bind fun f holds => ?_
  refine .bind (guards.reads (by simp) holds _) fun code => ?_
  exact (tight.formatReply conveys upholds (idle (by simp)) (idle (by simp)) r code).leads guards.weaken guards.weaken

theorem Guards.perform (guards : Guards g v transfer I K) (conveys : Conveys g v transfer) (upholds : Upholds g v)
    (operation : Operation)
    (configures : ∀ globals plugin, operation = .configure globals plugin → Keeps I (setConfig globals plugin)) :
    Keeps I operation.perform := by
  have idle : ∀ name ∈ ["get_plugin_info", "get_license_text"], name ∈ hostCalls ∧ name ∈ idleCalls := by decide
  refine Formatter.perform_keeps operation configures
    (fun _ _ _ r _ _ _ => (guards.formatRequest conveys upholds r).keeps) ?_ ?_ ?_
  · exact fun _ => (guards.ensures.imp (fun _ => id) guards.weaken).keeps
  · exact fun name member _ => (guards.ask conveys member).keeps
  · exact fun name member => guards.loose.receiveFrom conveys upholds (idle name member).1 (idle name member).2 _ _

end

theorem stands_guards (carries : Carries g v transfer) (upholds : Upholds g v) :
    Guards g v transfer (Stands g v transfer start (MetBy transfer a) a)
      (Steady g v transfer start (MetBy transfer a) a) where
  loose := stands_tolerates g v transfer start a
  tight := steady_tolerates g v transfer start a
  weaken := Steady.stands
  ensures := ensureConfig_leads carries upholds
  reads {name f} member steady stage := by
    have listed : ∀ name ∈ ["format", "get_resolved_config", "get_config_diagnostics"],
        name ∈ hostCalls ∧ name ∉ configCalls := by decide
    obtain ⟨known, other⟩ := listed name member
    obtain ⟨stands, configured⟩ := steady
    refine leads_of_tries (fun h same => call_tries upholds (same ▸ stands.watched) known _ _) ?_ ?_ ?_
    · rintro h q rfl told
      exact stands.silent told
    · rintro h q rfl told
      exact stands.trapped told fun _ => stands.meets configured
    · rintro h q rfl told
      exact ⟨stands.idle told (fun _ => stands.meets configured) fun both => other both.2, configured⟩

theorem configure_stands (carries : Carries g v transfer) (upholds : Upholds g v)
    (stands : h.Stands g v transfer start (MetBy transfer a) a) (globals : GlobalArg) (plugin : Value)
    {result : Operation.Result} {h' : Formatter (σ × List Contact)}
    (run : (Operation.configure globals plugin).perform h = (result, h')) :
    h'.Stands g v transfer start (MetBy transfer a) (a.after (.configure globals plugin) result) := by
  rw [Operation.perform, setConfig] at run
  cases taken : globals.toFields with
  | error fault =>
      rw [taken] at run
      cases run
      simp only [Attempts.after, taken]
      exact stands
  | ok globalFields =>
      cases taken' : plugin.toMapping with
      | error fault =>
          rw [taken, taken'] at run
          cases run
          simp only [Attempts.after, taken, taken']
          exact stands
      | ok pluginFields =>
          rw [taken, taken'] at run
          have leads := applyConfig_leads carries upholds (List.subset_append_left a.failed [globalFields])
            ⟨globalFields, pluginFields⟩ [] h ⟨stands, fun _ => by simp⟩
          rcases bind_cases (applyConfig globalFields pluginFields) (fun _ => pure Answer.done) h with
            ⟨_, h₁, applied, eq⟩ | ⟨e, h₁, applied, eq⟩
          · -- It went well, and earlier failures are forgotten.
            rw [applied] at leads
            cases eq.symm.trans run
            simp only [Attempts.after, taken, taken']
            exact leads.1
          · rw [applied] at leads
            cases eq.symm.trans run
            simp only [Attempts.after, taken, taken']
            exact leads

theorem perform_stands (carries : Carries g v transfer) (upholds : Upholds g v)
    (stands : h.Stands g v transfer start (MetBy transfer a) a) (operation : Operation) :
    (operation.perform h).2.Stands g v transfer start (MetBy transfer a)
      (a.after operation (operation.perform h).1) := by
  by_cases configures : ∃ globals plugin, operation = .configure globals plugin
  · obtain ⟨globals, plugin, rfl⟩ := configures
    exact configure_stands carries upholds stands globals plugin rfl
  · have other : ∀ globals plugin, operation ≠ .configure globals plugin :=
      fun globals plugin same => configures ⟨globals, plugin, same⟩
    have same : a.after operation (operation.perform h).1 = a := by
      cases operation with
      | configure globals plugin => exact absurd rfl (other globals plugin)
      | _ => rfl
    rw [same]
    exact (stands_guards carries upholds).perform (conveys_of_carries carries) upholds operation
      (fun globals plugin same => absurd same (other globals plugin)) h stands

/-! ## Sessions -/

def history (f : Formatter σ) (operations : List Operation) : List (Operation × Operation.Result) :=
  operations.zip (run operations f).1

theorem length_results (operations : List Operation) (f : Formatter σ) :
    (run operations f).1.length = operations.length := by
  induction operations generalizing f with
  | nil => rfl
  | cons operation rest ih => rw [run_cons, List.length_cons, ih, List.length_cons]

theorem history_concat (f : Formatter σ) (operations : List Operation) (operation : Operation) :
    f.history (operations ++ [operation]) =
      f.history operations ++ [(operation, (operation.perform (run operations f).2).1)] := by
  rw [history, run_append, List.zip_append (length_results operations f).symm]
  rfl

theorem run_stands (carries : Carries g v transfer) (upholds : Upholds g v)
    (stands : h.Stands g v transfer start P ⟨.empty, []⟩) (operations : List Operation)
    (Q : List Contact → Contact → Prop) :
    (run operations h).2.Stands g v transfer (run operations h).2.contacts.length Q
      (.of (h.history operations)) := by
  -- On the last operation, since what it is expected to meet depends on all that came before.
  induction operations using List.reverseRecOn generalizing Q with
  | nil => exact stands.restart
  | append_singleton operations operation ih =>
      rw [run_append, history_concat, Attempts.of_concat]
      exact (perform_stands carries upholds (ih _) operation).restart

/-- Whatever depends on a configuration meets the one that was set last, if that is settled. If not, an attempt
since then has failed, and what is met is torn. -/
theorem configuration_met_in_session {engine : Engine σ} {patience : Nat} {bytes : List UInt8} {f : Formatter σ}
    (attached : f.Attached v engine patience bytes) (operations : List Operation) (operation : Operation)
    {before after : List Contact} {d : Contact}
    (made : f.conversation v (operations ++ [operation]) = before ++ d :: after)
    (later : (f.conversation v operations).length ≤ before.length) (reads : d.name ∈ Contact.readers) :
    if Contact.settled before then
      (Ledger.of before).InForce f.transfer d.args (Attempts.of (f.history operations)).last
    else (Ledger.of before).Torn f.transfer d.args (Attempts.of (f.history operations)) := by
  obtain ⟨carries, upholds, sound⟩ := attached.plugin
  obtain ⟨-, -, -, -, fresh, -⟩ := load_ok attached.loaded
  have stands : (f.observed (Contact.note v f.transfer) []).Stands f.plugin.guest v f.transfer 0 (fun _ _ => True)
      ⟨.empty, []⟩ :=
    ⟨⟨⟨rfl, rfl, sound⟩, .of_length_le le_rfl, fun _ _ => rfl⟩, fun _ => rfl,
      fun configured => absurd configured (Bool.eq_false_iff.mp fresh)⟩
  have same : (f.observed (Contact.note v f.transfer) []).history operations = f.history operations := by
    rw [history, history, (run_observed operations f []).1]
  have ready := run_stands carries upholds stands operations
    (MetBy f.transfer (.of (f.history operations)))
  rw [same] at ready
  rw [conversation_concat] at made
  exact (perform_stands carries upholds ready operation).since before d after made later reads

theorem configuration_met_once_set : ∃ (f : Formatter Reference.State) (before : List Contact) (d : Contact),
    f.Attached (Reference.view .direct) (Reference.engine Reference.silent .direct) 0 moduleHeader ∧
    f.conversation (Reference.view .direct) ([Reference.configure] ++ [Reference.plain]) = before ++ d :: [] ∧
    (f.conversation (Reference.view .direct) [Reference.configure]).length ≤ before.length ∧
    d.name ∈ Contact.readers ∧ Contact.settled before = true ∧
    (Ledger.of before).InForce f.transfer d.args (Attempts.of (f.history [Reference.configure])).last := by
  obtain ⟨f, attached, talks⟩ := Reference.attached
  obtain ⟨h₁, configured, talks₁⟩ := Reference.configure_talks talks
  obtain ⟨h₂, formatted, talks₂⟩ := Reference.plain_talks talks₁
  have first := talks₁.conversation (run_performed configured (run_nil _))
  have last := talks₂.conversation (run_performed configured (run_performed formatted (run_nil _)))
  have later : (f.conversation (Reference.view .direct) [Reference.configure]).length ≤ 2 := by
    rw [first]
    exact Nat.le_of_ble_eq_true rfl
  have met := configuration_met_in_session attached [Reference.configure] Reference.plain last later
    (by simp [Contact.readers])
  exact ⟨f, _, _, attached, last, later, by simp [Contact.readers], rfl, met⟩

/-- After an attempt that failed, a request does not meet the configuration that was set before it. -/
theorem configuration_lost_by_failed_attempt :
    ∃ (f : Formatter Reference.State) (before : List Contact) (d : Contact),
      f.Attached (Reference.view .direct) (Reference.engine Reference.silent .direct) 0 moduleHeader ∧
      f.conversation (Reference.view .direct) ([Reference.configure, Reference.misconfigure] ++ [Reference.plain]) =
        before ++ d :: [] ∧
      (f.conversation (Reference.view .direct) [Reference.configure, Reference.misconfigure]).length ≤ before.length ∧
      d.name ∈ Contact.readers ∧
      ¬(Ledger.of before).InForce f.transfer d.args
        (Attempts.of (f.history [Reference.configure, Reference.misconfigure])).last := by
  obtain ⟨f, attached, talks⟩ := Reference.attached
  obtain ⟨h₁, configured, talks₁⟩ := Reference.configure_talks talks
  obtain ⟨h₂, failed, talks₂⟩ := Reference.misconfigure_talks talks₁
  obtain ⟨h₃, formatted, talks₃⟩ := Reference.plain_talks talks₂
  have direct : f.transfer = .direct := talks.transfer
  have first := talks₂.conversation (run_performed configured (run_performed failed (run_nil _)))
  have last := talks₃.conversation (run_performed configured (run_performed failed (run_performed formatted (run_nil _))))
  have later : (f.conversation (Reference.view .direct) [Reference.configure, Reference.misconfigure]).length ≤ 3 := by
    rw [first]
    exact Nat.le_of_ble_eq_true rfl
  refine ⟨f, _, _, attached, last, later, by simp [Contact.readers], ?_⟩
  rw [direct]
  rintro ⟨id, args, registered⟩
  cases args
  cases registered

end Formatter

end PluginKit
