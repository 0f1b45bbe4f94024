import Mathlib.Data.List.Forall2
import PluginKit.Proofs.Json.RoundTrip
import PluginKit.Proofs.Plugin.Conversation
import PluginKit.Proofs.Plugin.Handing
import PluginKit.Proofs.Plugin.Refinement

/-!
What configurations are when they reach a plugin. Each function that takes one finds shared bytes from which the
fields that were given can be read back, in their order.
-/

namespace PluginKit

open Activity Abi Json

variable {σ κ : Type} {g : Guest σ} {v : View σ κ} {transfer : Transfer} {d : Nat}

def Transfer.deliveries (transfer : Transfer) (globals plugin : Fields) : List (String × Value) :=
  match transfer with
  | .direct => [("register_config", .object [(.text "global", .object globals), (.text "plugin", .object plugin)])]
  | _ => [("set_global_config", .object globals), ("set_plugin_config", .object plugin)]

namespace Contact

def delivers (c : Contact) : Bool := c.name ∈ ["set_global_config", "set_plugin_config", "register_config"]

structure Finds (d : Nat) (c : Contact) (delivery : String × Value) : Prop where
  name : c.name = delivery.1
  shared : Conveys d c.shared delivery.2

end Contact

/-! ## Given configurations -/

def GlobalConfig.present (c : GlobalConfig) : Fields :=
  [("lineWidth", c.lineWidth.map Value.int), ("indentWidth", c.indentWidth.map Value.int),
    ("useTabs", c.useTabs.map Value.flag),
    ("newLineKind", c.newLineKind.map fun kind => Value.text kind.text)].filterMap
      fun field => field.2.map fun value => (Key.text field.1, value)

theorem GlobalConfig.toFields_eq (c : GlobalConfig) : c.toFields = c.present := by
  obtain ⟨width, indent, tabs, ends⟩ := c
  cases width <;> cases indent <;> cases tabs <;> cases ends <;> rfl

inductive Formatter.GlobalArg.Gives : GlobalArg → Fields → Prop
  | config (c : GlobalConfig) : Gives (.config c) c.present
  | object (fields : Fields) : Gives (.value (.object fields)) fields

theorem Value.toMapping_object (fields : Fields) : (Value.object fields).toMapping = .ok fields := by
  cases fields <;> rfl

theorem Formatter.GlobalArg.Gives.toFields {globals : GlobalArg} {fields : Fields} (gives : globals.Gives fields) :
    globals.toFields = .ok fields := by
  cases gives with
  | config c => exact congrArg Except.ok c.toFields_eq
  | object => exact Value.toMapping_object fields

namespace Json

theorem IsData.mono {v : Value} (data : IsData d v) : IsData (d + 1) v := by
  induction data with
  | null => exact .null
  | flag b => exact .flag b
  | int n => exact .int n
  | text spells => exact .text spells
  | list each ih => exact .list ih
  | object nodup names each ih => exact .object nodup names ih

theorem spells_of_unmarked {s : String} (unmarked : Text.standInMark ∉ s.toList) : ∃ points, Text.Spells points s := by
  have plain : s.contains Text.standInMark = false := by
    rwa [String.contains_char_eq, decide_eq_false_iff_not]
  exact ⟨_, Text.held_of_unmarked plain ▸ Text.spells_held s⟩

theorem isData_record {globals plugin : Fields} (data : IsData d (.object globals)) (own : IsData d (.object plugin)) :
    IsData (d + 1) (.object [(.text "global", .object globals), (.text "plugin", .object plugin)]) := by
  refine .object (by simp) ?_ ?_
  · simp only [List.mem_cons, List.not_mem_nil, or_false]
    rintro _ (rfl | rfl)
    · exact ⟨_, (spells_of_unmarked (by decide)).imp fun _ spells => ⟨rfl, spells⟩⟩
    · exact ⟨_, (spells_of_unmarked (by decide)).imp fun _ spells => ⟨rfl, spells⟩⟩
  · simp only [List.mem_cons, List.not_mem_nil, or_false]
    rintro _ (rfl | rfl)
    · exact data
    · exact own

theorem unwritableItem?_eq_some {items : List Value} {fault : Unwritable} (found : unwritableItem? items = some fault) :
    ∃ v ∈ items, unwritable? v = some fault := by
  induction items with
  | nil => cases found
  | cons v items ih =>
      rw [unwritableItem?, Option.orElse_eq_orElse, Option.orElse_eq_or, Option.or_eq_some_iff] at found
      rcases found with here | ⟨-, later⟩
      · exact ⟨v, List.mem_cons_self, here⟩
      · obtain ⟨w, member, found⟩ := ih later
        exact ⟨w, List.mem_cons_of_mem v member, found⟩

theorem unwritableField?_eq_some {fields : Fields} {fault : Unwritable} (found : unwritableField? fields = some fault) :
    ∃ field ∈ fields, unwritableKey? field.1 = some fault ∨ unwritable? field.2 = some fault := by
  induction fields with
  | nil => cases found
  | cons field fields ih =>
      rw [unwritableField?, Option.orElse_eq_orElse, Option.orElse_eq_or, Option.or_eq_some_iff] at found
      rcases found with key | ⟨-, found⟩
      · exact ⟨field, List.mem_cons_self, .inl key⟩
      · rw [Option.orElse_eq_or, Option.or_eq_some_iff] at found
        rcases found with here | ⟨-, later⟩
        · exact ⟨field, List.mem_cons_self, .inr here⟩
        · obtain ⟨other, member, found⟩ := ih later
          exact ⟨other, List.mem_cons_of_mem field member, found⟩

inductive IsJson : Value → Prop where
  | null : IsJson .null
  | flag (b : Bool) : IsJson (.flag b)
  | int (n : Int) : IsJson (.int n)
  | float (x : Binary64) : IsJson (.float x)
  | text (s : String) : IsJson (.text s)
  | list {items : List Value} (each : ∀ v ∈ items, IsJson v) : IsJson (.list items)
  | object {fields : Fields} (distinct : fields.Distinct) (each : ∀ field ∈ fields, IsJson field.2) :
      IsJson (.object fields)

theorem IsJson.unwritable {v : Value} {fault : Unwritable} (json : IsJson v) (found : unwritable? v = some fault) :
    fault = .number := by
  induction json with
  | null => cases found
  | flag b => cases found
  | int n =>
      rw [unwritable?, unwritableInt?] at found
      split at found
      · exact (Option.some.inj found).symm
      · cases found
  | float x => cases found
  | text s => cases found
  | list each ih =>
      rw [unwritable?] at found
      obtain ⟨v, member, found⟩ := unwritableItem?_eq_some found
      exact ih v member found
  | object distinct each ih =>
      rw [unwritable?] at found
      obtain ⟨field, member, key | found⟩ := unwritableField?_eq_some found
      · obtain ⟨name, named⟩ := distinct.named field member
        rw [named] at key
        cases key
      · exact ih field member found

theorem IsData.isJson {v : Value} (data : IsData d v) : IsJson v := by
  induction data with
  | null => exact .null
  | flag b => exact .flag b
  | int n => exact .int n
  | text spells => exact .text _
  | list each ih => exact .list ih
  | object nodup names each ih =>
      refine .object ⟨fun field member => ?_, nodup⟩ ih
      obtain ⟨name, -, named, -⟩ := names field member
      exact ⟨name, named⟩

theorem IsData.unwritable {v : Value} {fault : Unwritable} (data : IsData d v) (found : unwritable? v = some fault) :
    fault = .number :=
  data.isJson.unwritable found

end Json

/-! ## Handing over -/

namespace Formatter

structure Reached (g : Guest σ) (v : View σ κ) (transfer : Transfer) (d : Nat) (start : List Contact)
    (made : List (String × Value)) (h : Formatter (σ × List Contact)) : Prop where
  watched : h.Watched g v transfer
  said : ∃ said, h.contacts = start ++ said ∧ List.Forall₂ (Contact.Finds d) (said.filter Contact.delivers) made

def Partly (g : Guest σ) (v : View σ κ) (transfer : Transfer) (d : Nat) (start : List Contact)
    (all : List (String × Value)) (h : Formatter (σ × List Contact)) : Prop :=
  ∃ made, made <+: all ∧ h.Reached g v transfer d start made

variable {start : List Contact} {made all : List (String × Value)} {h : Formatter (σ × List Contact)}
  {q : Plugin (σ × List Contact)} {c : Contact} {name : String} {value : Value}

namespace Reached

theorem silent (reached : h.Reached g v transfer d start made) (told : h.plugin.Tells v [] q) :
    Reached g v transfer d start made { h with plugin := q } := by
  obtain ⟨watched, said, heard, found⟩ := reached
  refine ⟨watched.tells told, said, ?_, found⟩
  rw [contacts, told.noted, List.append_nil, ← heard, contacts]

theorem aside (reached : h.Reached g v transfer d start made) (told : h.plugin.Tells v [c] q)
    (other : c.delivers = false) : Reached g v transfer d start made { h with plugin := q } := by
  obtain ⟨watched, said, heard, found⟩ := reached
  refine ⟨watched.tells told, said ++ [c], ?_, ?_⟩
  · rw [contacts, told.noted, ← List.append_assoc, ← heard, contacts]
  · rwa [List.filter_append, List.filter_cons_of_neg (by simp [other]), List.filter_nil, List.append_nil]

theorem found {delivery : String × Value} (reached : h.Reached g v transfer d start made)
    (told : h.plugin.Tells v [c] q) (own : c.delivers = true) (finds : c.Finds d delivery) :
    Reached g v transfer d start (made ++ [delivery]) { h with plugin := q } := by
  obtain ⟨watched, said, heard, found⟩ := reached
  refine ⟨watched.tells told, said ++ [c], ?_, ?_⟩
  · rw [contacts, told.noted, ← List.append_assoc, ← heard, contacts]
  · rw [List.filter_append, List.filter_cons_of_pos own, List.filter_nil]
    exact List.rel_append found (.cons finds .nil)

end Reached

theorem aside_leads (upholds : Upholds g v) (known : name ∈ hostCalls)
    (other : ∀ args shared b, Contact.delivers ⟨name, args, shared, b⟩ = false) (within : made <+: all)
    {args : List Int} :
    Leads (Reached g v transfer d start made) (Reached g v transfer d start made) (Partly g v transfer d start all)
      (call .running name args) := by
  refine leads_of_tries (fun h reached => call_tries upholds reached.watched known .running args) ?_ ?_ ?_
  · exact fun h q reached told => ⟨made, within, reached.silent told⟩
  · exact fun h q reached told => ⟨made, within, reached.aside told (other _ _ _)⟩
  · exact fun h q reached told => reached.aside told (other _ _ _)

theorem delivery_leads {x : Op (σ × List Contact) Unit} (args : Formatter (σ × List Contact) → List Int)
    (refuses : ∀ fault h, unwritable? value = some fault → x h = (.error (.unwritable fault), h))
    (tries : ∀ h : Formatter (σ × List Contact), h.Watched g v transfer →
      h.Tries v (fun b => ⟨name, args h, Json.bytes value, b⟩) x)
    (own : ∀ args shared b, Contact.delivers ⟨name, args, shared, b⟩ = true) (data : IsData d value)
    (within : made ++ [(name, value)] <+: all) :
    Leads (Reached g v transfer d start made) (Reached g v transfer d start (made ++ [(name, value)]))
      (Partly g v transfer d start all) x := by
  have less : made <+: all := (List.prefix_append made _).trans within
  cases writable : unwritable? value with
  | some fault =>
      intro h reached
      rw [refuses fault h writable]
      exact ⟨made, less, reached⟩
  | none =>
      have finds : ∀ args b, Contact.Finds d ⟨name, args, Json.bytes value, b⟩ (name, value) :=
        fun args b => ⟨rfl, conveys_bytes data writable⟩
      refine leads_of_tries (fun h reached => tries h reached.watched) ?_ ?_ ?_
      · exact fun h q reached told => ⟨made, less, reached.silent told⟩
      · exact fun h q reached told => ⟨_, within, reached.found told (own _ _ _) (finds _ _)⟩
      · exact fun h q reached told => reached.found told (own _ _ _) (finds _ _)

theorem handOver_leads (carries : Carries g v transfer) (upholds : Upholds g v) (known : name ∈ hostCalls)
    (own : ∀ args shared b, Contact.delivers ⟨name, args, shared, b⟩ = true) (data : IsData d value)
    (within : made ++ [(name, value)] <+: all) :
    Leads (Reached g v transfer d start made) (Reached g v transfer d start (made ++ [(name, value)]))
      (Partly g v transfer d start all) (handOver .running value name) :=
  delivery_leads (fun _ => []) (fun _ h unwritable => handOver_error unwritable _ _ h)
    (fun _ watched => handOver_tries carries upholds watched known .running value) own data within

theorem registration_leads (carries : Carries g v transfer) (upholds : Upholds g v) (data : IsData d value)
    (within : made ++ [("register_config", value)] <+: all) :
    Leads (Reached g v transfer d start made) (Reached g v transfer d start (made ++ [("register_config", value)]))
      (Partly g v transfer d start all) (register value) :=
  delivery_leads (fun h => [(h.configId : Int)]) (fun _ h unwritable => bind_error (sendValue_error unwritable _ h))
    (fun _ watched => register_tries carries upholds watched value) (fun _ _ _ => rfl) data within

theorem asides_lead (upholds : Upholds g v) :
    Leads (Reached g v transfer d start []) (Reached g v transfer d start []) (Partly g v transfer d start all)
        releaseConfig ∧
      Leads (Reached g v transfer d start []) (Reached g v transfer d start []) (Partly g v transfer d start all)
        resetConfig := by
  have said : ∀ (b : Bool) (args : List Int), ∀ name ∈ ["release_config", "reset_config"],
      Leads (Reached g v transfer d start []) (Reached g v transfer d start []) (Partly g v transfer d start all)
        (if b then do let _ ← call .running name args else pure ()) := by
    intro b args name member
    have known : name ∈ hostCalls := configCalls_subset (by simp [configCalls] at member ⊢; tauto)
    have other : ∀ args shared b, Contact.delivers ⟨name, args, shared, b⟩ = false := by
      rcases List.mem_pair.mp member with rfl | rfl <;> exact fun _ _ _ => rfl
    split
    · exact .bind (aside_leads upholds known other List.nil_prefix) fun _ => .pure _ fun _ => id
    · exact .pure _ fun _ => id
  constructor
  · exact .get_bind fun f reached => (said f.configured _ _ (by simp)).imp (fun h same => same ▸ reached) fun _ => id
  · exact .get_bind fun f reached => (said (f.plugin.hasExport "reset_config") _ _ (by simp)).imp
      (fun h same => same ▸ reached) fun _ => id

variable {globals plugin : Fields}

theorem handConfig_reaches (carries : Carries g v transfer) (upholds : Upholds g v)
    (data : IsData d (.object globals)) (own : IsData d (.object plugin)) :
    Leads (Reached g v transfer (d + 1) start [])
      (Reached g v transfer (d + 1) start (transfer.deliveries globals plugin))
      (Partly g v transfer (d + 1) start (transfer.deliveries globals plugin)) (handConfig globals plugin) := by
  refine .get_bind fun f reached => ?_
  rw [reached.watched.transfer]
  have replaced : ∀ all, [("set_global_config", Value.object globals), ("set_plugin_config", .object plugin)] = all →
      Leads (· = f) (Reached g v transfer (d + 1) start all) (Partly g v transfer (d + 1) start all)
        (replaceConfig globals plugin) := by
    rintro all rfl
    rw [replaceConfig_eq]
    refine .imp (.bind (asides_lead upholds).2 fun _ =>
      .bind (handOver_leads carries upholds (by simp [hostCalls]) (fun _ _ _ => rfl) data.mono ⟨[_], rfl⟩) fun _ =>
      handOver_leads carries upholds (by simp [hostCalls]) (fun _ _ _ => rfl) own.mono ⟨[], rfl⟩) ?_ fun _ => id
    exact fun h same => same ▸ reached
  cases transfer with
  | buffered size positive => exact replaced _ rfl
  | fractional x => exact replaced _ rfl
  | direct =>
      rw [registerConfig_eq]
      refine .imp (.bind (asides_lead upholds).1 fun _ =>
        .bind (K := Reached g v .direct (d + 1) start []) ?_ fun _ =>
          registration_leads carries upholds (isData_record data own) ⟨[], rfl⟩) ?_ fun _ => id
      · rintro h ⟨watched, said⟩
        exact ⟨⟨watched.guest, watched.transfer, watched.sound⟩, said⟩
      · exact fun h same => same ▸ reached

theorem applyConfig_reaches (carries : Carries g v transfer) (upholds : Upholds g v)
    (data : IsData d (.object globals)) (own : IsData d (.object plugin)) :
    Leads (Reached g v transfer (d + 1) start [])
      (Reached g v transfer (d + 1) start (transfer.deliveries globals plugin))
      (Partly g v transfer (d + 1) start (transfer.deliveries globals plugin)) (applyConfig globals plugin) := by
  rw [applyConfig_eq]
  refine .bind (handConfig_reaches carries upholds data own) fun _ =>
    .bind (K := Reached g v transfer (d + 1) start (transfer.deliveries globals plugin)) ?_ fun _ => ?_
  · rintro h ⟨watched, said⟩
    exact ⟨⟨watched.guest, watched.transfer, watched.sound⟩, said⟩
  · exact fun h reached => reached.silent ⟨rfl, reached.watched.sound, (List.append_nil _).symm⟩

/-! ## Sessions -/

theorem guest_of_observed {ν : Type} {note : Observer σ ν} {g' : Guest σ} (same : g.observed note = g'.observed note) :
    g = g' := by
  obtain ⟨exports, takes, call⟩ := g
  obtain ⟨exports', takes', call'⟩ := g'
  obtain ⟨rfl, rfl, calls⟩ := Guest.mk.inj same
  congr
  funext name args m s
  have result := congrFun (congrFun (congrFun (congrFun calls name) args) m) (s, [])
  simp only [CallResult.mk.injEq, Prod.mk.injEq] at result
  generalize call name args m s = one, call' name args m s = two at result ⊢
  obtain ⟨outcome, memory, state, imports⟩ := one
  obtain ⟨rfl, rfl, ⟨rfl, -⟩, rfl⟩ := result
  rfl

theorem perform_configure {arg : GlobalArg} (gives : arg.Gives globals) (f : Formatter σ) :
    (Operation.configure arg (.object plugin)).perform f =
      (do applyConfig globals plugin; pure Answer.done) f := by
  rw [Operation.perform, setConfig, gives.toFields, Value.toMapping_object]

theorem configure_outcome {next : κ → String → List Int → List UInt8 → κ} {f : Formatter σ} {arg : GlobalArg}
    (heeds : Heeds configCalls next f.plugin.guest v f.transfer) (sound : v.sound f.plugin.memory f.plugin.state)
    (fits : v.FitsConfig f.transfer ⟨globals, plugin⟩) (gives : arg.Gives globals) (data : IsData d (.object globals))
    (own : IsData d (.object plugin)) :
    ((Operation.configure arg (.object plugin)).perform f).1 =
      if unwritable? (.object globals) = none ∧ unwritable? (.object plugin) = none then .ok .done
      else .error (.unwritable .number) := by
  rw [perform_configure gives]
  have both : unwritable? (.object globals) = none ∧ unwritable? (.object plugin) = none ↔
      unwritable? (Configuration.mk globals plugin).record = none := by simp [unwritable?_record]
  cases writable : unwritable? (Configuration.mk globals plugin).record with
  | none =>
      obtain ⟨f', applied, -⟩ := applyConfig_ok heeds (List.Subset.refl _) sound fits writable
      rw [if_pos (both.mpr writable), bind_ok applied]
      rfl
  | some fault =>
      have long : fault = .number := (isData_record data own).unwritable writable
      obtain ⟨f', failed, -⟩ := applyConfig_error heeds (List.Subset.refl _) sound fits writable
      rw [if_neg (by rw [both, writable]; simp), bind_error failed, long]

/-- Each function that takes a configuration finds bytes from which what was given can be read back: both parts one
after the other on schema 3, and one object of them on schema 4. All of it is found if the configuration is set, and
with a plugin that never fails and has room for it, it is set unless a number in it has too many digits. -/
theorem configuration_read_back {engine : Engine σ} {patience : Nat} {bytes : List UInt8} {f : Formatter σ}
    (attached : f.Attached v engine patience bytes) (operations : List Operation) {arg : GlobalArg}
    (gives : arg.Gives globals) (data : IsData d (.object globals)) (own : IsData d (.object plugin)) :
    let configure := Operation.configure arg (.object plugin)
    let outcome := (configure.perform (run operations f).2).1
    ∃ said made, f.conversation v (operations ++ [configure]) = f.conversation v operations ++ said ∧
      List.Forall₂ (Contact.Finds (d + 1)) (said.filter Contact.delivers) made ∧
      made <+: f.transfer.deliveries globals plugin ∧
      (outcome = .ok .done → made = f.transfer.deliveries globals plugin) ∧
      ∀ next, Heeds configCalls next f.plugin.guest v f.transfer → v.FitsConfig f.transfer ⟨globals, plugin⟩ →
        outcome = if unwritable? (.object globals) = none ∧ unwritable? (.object plugin) = none then .ok .done
          else .error (.unwritable .number) := by
  intro configure outcome
  obtain ⟨carries, upholds, -⟩ := attached.plugin
  have watched := attached.watched operations
  obtain ⟨notes, after⟩ : ∃ notes, (run operations (f.observed (Contact.note v f.transfer) [])).2 =
      (run operations f).2.observed (Contact.note v f.transfer) notes := (run_observed operations f []).2
  have shadow : Mirrors (Shadow (Contact.note v f.transfer)) configure.perform configure.perform :=
    perform_shadow configure
  have told : outcome = (configure.perform ((run operations f).2.observed (Contact.note v f.transfer) notes)).1 :=
    (shadow (run operations f).2 _ ⟨notes, rfl⟩).1
  rw [conversation_concat, conversation, after, told, perform_configure gives]
  rw [after] at watched
  generalize observed : (run operations f).2.observed (Contact.note v f.transfer) notes = h at watched
  have leads := applyConfig_reaches carries upholds data own h ⟨watched, [], (List.append_nil _).symm, .nil⟩
  have outcomes : ∀ next, Heeds configCalls next f.plugin.guest v f.transfer →
      v.FitsConfig f.transfer ⟨globals, plugin⟩ →
      outcome = if unwritable? (.object globals) = none ∧ unwritable? (.object plugin) = none then .ok .done
        else .error (.unwritable .number) := by
    intro next heeds fits
    subst observed
    have guest : (run operations f).2.plugin.guest = f.plugin.guest := guest_of_observed watched.guest
    have transfer : (run operations f).2.transfer = f.transfer := watched.transfer
    rw [← guest, ← transfer] at heeds
    rw [← transfer] at fits
    exact configure_outcome heeds watched.sound fits gives data own
  rw [told, observed, perform_configure gives] at outcomes
  rcases bind_cases (applyConfig globals plugin) (fun _ => pure Answer.done) h with
    ⟨_, h', applied, eq⟩ | ⟨e, h', applied, eq⟩
  · rw [applied] at leads
    obtain ⟨-, said, heard, found⟩ := leads
    rw [eq] at outcomes ⊢
    exact ⟨said, _, heard, found, List.prefix_refl _, fun _ => rfl, outcomes⟩
  · rw [applied] at leads
    obtain ⟨made, within, -, said, heard, found⟩ := leads
    rw [eq] at outcomes ⊢
    exact ⟨said, made, heard, found, within, fun ok => (by cases ok), outcomes⟩

def sample : Fields :=
  [(.text "é\n", .list [.int (-70), .null,
      .text (String.ofList ([0xd800, 0x1f600, 0x9fffe].flatMap Text.charsOfCode))]),
    (.text "", .object [])]

theorem isData_sample : IsData 2 (.object sample) := by
  have text : Text.Spells [0xd800, 0x1f600, 0x9fffe]
      (String.ofList ([0xd800, 0x1f600, 0x9fffe].flatMap Text.charsOfCode)) :=
    ⟨String.toList_ofList, by simp, by simp [Text.IsPair]⟩
  refine .object (by simp [sample]) ?_ ?_
  · simp only [sample, List.mem_cons, List.not_mem_nil, or_false]
    rintro _ (rfl | rfl)
    · exact ⟨_, (spells_of_unmarked (by decide)).imp fun _ spells => ⟨rfl, spells⟩⟩
    · exact ⟨_, (spells_of_unmarked (by decide)).imp fun _ spells => ⟨rfl, spells⟩⟩
  · simp only [sample, List.mem_cons, List.not_mem_nil, or_false]
    rintro _ (rfl | rfl)
    · refine .list ?_
      simp only [List.mem_cons, List.not_mem_nil, or_false]
      rintro _ (rfl | rfl | rfl)
      · exact .int _
      · exact .null
      · exact .text text
    · exact .object (by simp) (by simp) (by simp)

theorem sample_read_back_on_both_schemas :
    let arg : GlobalArg := .config ⟨some 80, none, some true, some .crlf⟩
    let globals : Fields :=
      [(.text "lineWidth", .int 80), (.text "useTabs", .flag true), (.text "newLineKind", .text "crlf")]
    ∃ f h : Formatter Reference.State, f.schema = 3 ∧ h.schema = 4 ∧
      List.Forall₂ (Contact.Finds 3)
        ((f.conversation (Reference.view f.transfer) [.configure arg (.object sample)]).filter Contact.delivers)
        [("set_global_config", .object globals), ("set_plugin_config", .object sample)] ∧
      List.Forall₂ (Contact.Finds 3)
        ((h.conversation (Reference.view h.transfer) [.configure arg (.object sample)]).filter Contact.delivers)
        [("register_config", .object [(.text "global", .object globals), (.text "plugin", .object sample)])] := by
  intro arg globals
  have global : IsData 2 (.object globals) := by
    refine .object (by simp [globals]) ?_ ?_
    · simp only [globals, List.mem_cons, List.not_mem_nil, or_false]
      rintro _ (rfl | rfl | rfl)
      all_goals exact ⟨_, (spells_of_unmarked (by decide)).imp fun _ spells => ⟨rfl, spells⟩⟩
    · simp only [globals, List.mem_cons, List.not_mem_nil, or_false]
      rintro _ (rfl | rfl | rfl)
      · exact .int _
      · exact .flag _
      · obtain ⟨points, spells⟩ := spells_of_unmarked (s := "crlf") (by decide)
        exact .text spells
  have found : ∀ (transfer : Transfer) {f : Formatter Reference.State}, Reference.Whole transfer →
      (load (Reference.engine Reference.echoRule transfer) 0 moduleHeader).1 = .ok f → f.transfer = transfer →
      f.plugin.guest = Reference.guest Reference.echoRule transfer →
      List.Forall₂ (Contact.Finds 3)
        ((f.conversation (Reference.view f.transfer) [.configure arg (.object sample)]).filter Contact.delivers)
        (f.transfer.deliveries globals sample) := by
    rintro _ f whole loaded rfl guest
    have implements : Implements Reference.echo (Reference.guest Reference.echoRule f.transfer)
        (Reference.view f.transfer) f.transfer := Reference.implements whole Reference.renders_echo
    have upholds : Upholds (Reference.guest Reference.echoRule f.transfer) (Reference.view f.transfer) := by
      intro name known args m s sound
      obtain ⟨reply, returned⟩ : Guest.Completes _ name args m s := implements.completes known sound
      exact (implements.holds known sound ⟨returned, rfl, rfl⟩).1
    have attached : f.Attached (Reference.view f.transfer) (Reference.engine Reference.echoRule f.transfer) 0
        moduleHeader := by
      refine ⟨loaded, fun p compiled => ?_⟩
      cases compiled
      exact ⟨implements.carries, upholds, Reference.sound_start _ _⟩
    have heeds := implements.heeds
    rw [← guest] at heeds
    obtain ⟨said, made, heard, finds, -, complete, outcome⟩ :=
      configuration_read_back attached [] (.config _ : arg.Gives globals) global isData_sample
    have ok := outcome _ (heeds.fewer configCalls_subset) (View.fitsConfig_of_roomy (fun _ => trivial) _ _)
    have same : f.conversation (Reference.view f.transfer) [.configure arg (.object sample)] = said := heard
    rw [complete (ok.trans (if_pos ⟨rfl, rfl⟩))] at finds
    rw [same]
    exact finds
  refine ⟨_, _, rfl, rfl, found (.buffered 1 Nat.one_pos) trivial rfl rfl rfl,
    found .direct trivial rfl rfl rfl⟩

end Formatter

end PluginKit
