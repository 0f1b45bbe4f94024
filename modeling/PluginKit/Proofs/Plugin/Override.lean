import Mathlib.Data.List.Induction
import PluginKit.Proofs.Plugin.Silent

/-!
Which override a plugin has at hand when it is asked to format. A request that carries one hands it over
before; nothing takes it back when the request fails before formatting begins, so it meets the next request
that does get there.
-/

namespace PluginKit

variable {σ κ : Type}

open Activity Abi

theorem Ledger.override_call (l : Ledger) (name : String) (args : List Int) (shared : List UInt8)
    (returned : Bool) :
    (l.call name args shared returned).override = if name = "format" then none
      else if name = "set_override_config" ∧ returned = true then some shared else l.override := by
  by_cases formats : name = "format"
  · subst formats
    rw [Ledger.call_format, if_pos rfl]
  · rw [if_neg formats, Ledger.call, if_neg formats]
    cases returned with
    | false => simp
    | true =>
        simp only [if_true, and_true]
        unfold Ledger.after
        split <;> simp_all

namespace Contact

/-- Every override that was handed over has since met a request to format. -/
def Spent (contacts : List Contact) : Prop :=
  ∀ before c after, contacts = before ++ c :: after → c.name = "set_override_config" → c.returned = true →
    ∃ d ∈ after, d.name = "format"

theorem spent_concat (contacts : List Contact) (c : Contact) :
    Spent (contacts ++ [c]) ↔
      c.name = "format" ∨ ¬(c.name = "set_override_config" ∧ c.returned = true) ∧ Spent contacts := by
  constructor
  · intro spent
    refine Classical.or_iff_not_imp_left.mpr fun formats => ⟨?_, ?_⟩
    · rintro ⟨hands, returned⟩
      obtain ⟨d, member, -⟩ := spent contacts c [] rfl hands returned
      cases member
    · rintro before d after rfl hands returned
      obtain ⟨e, member, named⟩ := spent before d (after ++ [c]) (by simp) hands returned
      rcases List.mem_append.mp member with member | last
      · exact ⟨e, member, named⟩
      · rw [List.mem_singleton.mp last] at named
        exact absurd named formats
  · intro cases before d after eq hands returned
    rcases split_concat eq with ⟨-, rfl, -⟩ | ⟨rest, rfl, earlier⟩
    · rcases cases with formats | ⟨other, -⟩
      · rw [formats] at hands
        exact absurd hands (by decide)
      · exact absurd ⟨hands, returned⟩ other
    · rcases cases with formats | ⟨-, spent⟩
      · exact ⟨c, by simp, formats⟩
      · obtain ⟨e, member, named⟩ := spent before d rest earlier hands returned
        exact ⟨e, List.mem_append_left _ member, named⟩

theorem override_eq_none_iff (contacts : List Contact) : (Ledger.of contacts).override = none ↔ Spent contacts := by
  induction contacts using List.reverseRecOn with
  | nil => exact ⟨fun _ before c after eq => by simp at eq, fun _ => rfl⟩
  | append_singleton contacts c ih =>
      rw [Ledger.of_append, Ledger.override_call, spent_concat, ← ih]
      by_cases formats : c.name = "format"
      · simp [formats]
      by_cases hands : c.name = "set_override_config" ∧ c.returned = true
      · simp [hands]
      · simp [formats, hands]

end Contact

namespace Formatter

variable {g : Guest σ} {v : View σ κ} {transfer : Transfer} {start : Nat} {P : List Contact → Contact → Prop}
  {pending : Option (List UInt8)} {h : Formatter (σ × List Contact)}

structure Pends (g : Guest σ) (v : View σ κ) (transfer : Transfer) (start : Nat)
    (P : List Contact → Contact → Prop) (pending : Option (List UInt8)) (h : Formatter (σ × List Contact)) :
    Prop where
  watched : h.Watched g v transfer
  since : Contact.Since start P h.contacts
  pending : (Ledger.of h.contacts).override = pending

def otherCalls : List String := hostCalls.filter fun name => name ≠ "set_override_config" ∧ name ≠ "format"

theorem mem_otherCalls {name : String} : name ∈ otherCalls ↔
    name ∈ hostCalls ∧ name ≠ "set_override_config" ∧ name ≠ "format" := by
  simp [otherCalls]

theorem pends_tells {q : Plugin (σ × List Contact)} (pends : h.Pends g v transfer start P pending)
    (told : h.plugin.Tells v [] q) : Pends g v transfer start P pending { h with plugin := q } := by
  have same : q.state.2 = h.contacts := told.noted.trans (List.append_nil _)
  exact ⟨pends.watched.tells told, by rw [contacts, same]; exact pends.since,
    by rw [contacts, same]; exact pends.pending⟩

theorem pends_contact {q : Plugin (σ × List Contact)} {c : Contact} {after : Option (List UInt8)}
    (pends : h.Pends g v transfer start P pending) (told : h.plugin.Tells v [c] q) (expected : P h.contacts c)
    (override : ((Ledger.of h.contacts).call c.name c.args c.shared c.returned).override = after) :
    Pends g v transfer start P after { h with plugin := q } := by
  have one : q.state.2 = h.contacts ++ [c] := told.noted
  exact ⟨pends.watched.tells told, by rw [contacts, one]; exact pends.since.concat expected,
    by rw [contacts, one, Ledger.of_append]; exact override⟩

theorem pends_ignores (expected : ∀ before c, c.name ∈ otherCalls → P before c) :
    Ignores g v transfer otherCalls (Pends g v transfer start P pending) where
  watched pends := pends.watched
  silent := pends_tells
  contact {h q c} pends member told := by
    refine pends_contact pends told (expected _ c member) ?_
    obtain ⟨-, hands, formats⟩ := mem_otherCalls.mp member
    rw [Ledger.override_call, if_neg formats, if_neg fun both => hands both.1]
    exact pends.pending
  renumber pends := ⟨⟨pends.watched.guest, pends.watched.transfer, pends.watched.sound⟩, pends.since, pends.pending⟩
  mark pends := ⟨⟨pends.watched.guest, pends.watched.transfer, pends.watched.sound⟩, pends.since, pends.pending⟩

def handed (r : FormatRequest) (left : Option (List UInt8)) : Option (List UInt8) :=
  ((overrideOf r.override).map Json.bytes).or left

theorem sendOverride_leads (carries : Carries g v transfer) (upholds : Upholds g v) (r : FormatRequest)
    (left : Option (List UInt8)) (expected : ∀ before c, c.name ≠ "format" → P before c) :
    Leads (Pends g v transfer start P left) (Pends g v transfer start P (handed r left))
      (fun h => ∃ pending, Pends g v transfer start P pending h) (sendOverride r) := by
  have other : "set_override_config" ≠ "format" := by decide
  rw [sendOverride_eq, handed, overrideOf]
  split
  · exact .pure _ fun _ pends => pends
  refine .get_bind fun f pends => ?_
  split
  · refine leads_of_tries
      (fun h same => handOver_tries carries upholds (same ▸ pends.watched) (by simp [hostCalls]) _ _) ?_ ?_ ?_
    · rintro h q rfl told
      exact ⟨left, pends_tells pends told⟩
    · rintro h q rfl told
      exact ⟨_, pends_contact pends told (expected _ _ other) rfl⟩
    · rintro h q rfl told
      exact pends_contact pends told (expected _ _ other) rfl
  · exact .throw _ fun h same => ⟨left, same ▸ pends⟩

theorem formatRequest_since (carries : Carries g v transfer) (upholds : Upholds g v) (r : FormatRequest)
    (left : Option (List UInt8)) (pends : h.Pends g v transfer start
      (fun before c => c.name = "format" → (Ledger.of before).override = handed r left) left) :
    Contact.Since start (fun before c => c.name = "format" → (Ledger.of before).override = handed r left)
      (formatRequest r h).2.contacts := by
  -- What is expected of a contact matters at one point only, where formatting begins.
  generalize expects : (fun before (c : Contact) =>
    c.name = "format" → (Ledger.of before).override = handed r left) = P at pends ⊢
  have otherwise : ∀ before c, c.name ≠ "format" → P before c := by
    rw [← expects]
    exact fun _ _ other named => absurd named other
  have ignores : ∀ pending, Ignores g v transfer otherCalls (Pends g v transfer start P pending) :=
    fun _ => pends_ignores fun before c member => otherwise before c (mem_otherCalls.mp member).2.2
  have others : ∀ {name : String}, name ∈ hostCalls → name ≠ "set_override_config" → name ≠ "format" →
      name ∈ otherCalls := fun known hands formats => mem_otherCalls.mpr ⟨known, hands, formats⟩
  have held : ∀ pending h, Pends g v transfer start P pending h → ∃ pending, Pends g v transfer start P pending h :=
    fun pending _ pends => ⟨pending, pends⟩
  have conveys := conveys_of_carries carries
  have leads : Leads (Pends g v transfer start P left) (fun h => ∃ pending, Pends g v transfer start P pending h)
      (fun h => ∃ pending, Pends g v transfer start P pending h) (formatRequest r) := by
    have configs : configCalls ⊆ otherCalls := by
      intro name member
      refine others (configCalls_subset member) ?_ ?_ <;> rintro rfl <;> simp [configCalls] at member
    refine .bind (((ignores left).ensureConfig conveys upholds configs).leads (fun _ => id) (held left)) fun _ => ?_
    refine .bind (sendOverride_leads carries upholds r left otherwise) fun _ => ?_
    refine .bind (((ignores _).send conveys _ _).leads (fun _ => id) (held _)) fun _ => ?_
    refine .bind (((ignores _).call upholds (by simp [hostCalls]) (others (by simp [hostCalls]) (by decide)
      (by decide)) _ _).leads (fun _ => id) (held _)) fun _ => ?_
    refine .bind (((ignores _).send conveys _ _).leads (fun _ => id) (held _)) fun _ => .get_bind fun f pends => ?_
    -- Here formatting begins: the override is looked at, and gone whatever happens.
    refine .bind (K := Pends g v transfer start P none) ?_ fun code => ?_
    · refine leads_of_tries
        (fun h same => call_tries upholds (same ▸ pends.watched) (by simp [hostCalls]) _ _) ?_ ?_ ?_
      · rintro h q rfl told
        exact ⟨_, pends_tells pends told⟩
      · rintro h q rfl told
        exact ⟨none, pends_contact pends told (by rw [← expects]; exact fun _ => pends.pending) (by simp)⟩
      · rintro h q rfl told
        exact pends_contact pends told (by rw [← expects]; exact fun _ => pends.pending) (by simp)
    · exact ((ignores none).formatReply conveys upholds (others (by simp [hostCalls]) (by decide) (by decide))
        (others (by simp [hostCalls]) (by decide) (by decide)) r code).leads (held none) (held none)
  obtain ⟨pending, after⟩ := leads.keeps pends
  exact after.since

theorem perform_since (carries : Carries g v transfer) (upholds : Upholds g v) (watched : h.Watched g v transfer)
    (operation : Operation) :
    Contact.Since h.contacts.length (fun before c => c.name = "format" → ∃ request text override r,
      operation = .format request text override ∧ request.coerce text override = .ok (.request r) ∧
      (Ledger.of before).override = handed r (Ledger.of h.contacts).override)
      (operation.perform h).2.contacts := by
  by_cases formats : ∃ request text override r, operation = .format request text override ∧
      request.coerce text override = .ok (.request r)
  · obtain ⟨request, text, override, r, rfl, coerced⟩ := formats
    have since := formatRequest_since carries upholds r (Ledger.of h.contacts).override
      ⟨watched, .of_length_le le_rfl, rfl⟩
    rw [Operation.perform, bind_pure_snd, format, coerced]
    exact since.mono fun before c expected enters => ⟨request, text, override, r, rfl, coerced, expected enters⟩
  · have pends : h.Pends g v transfer h.contacts.length (fun _ c => c.name ≠ "format")
        (Ledger.of h.contacts).override := ⟨watched, .of_length_le le_rfl, rfl⟩
    have ignores : Ignores g v transfer otherCalls (Pends g v transfer h.contacts.length
        (fun _ c => c.name ≠ "format") (Ledger.of h.contacts).override) :=
      pends_ignores fun _ _ member => (mem_otherCalls.mp member).2.2
    have after := ignores.perform (conveys_of_carries carries) upholds
      (fun name known hands formats => mem_otherCalls.mpr ⟨known, hands, formats⟩) operation
      (fun request text override r same coerced =>
        absurd ⟨request, text, override, r, same, coerced⟩ formats) h pends
    exact after.since.mono fun _ _ other enters => absurd enters other

/-- Formatting begins with the override of the request, or with what was left if it has none. So it meets its
own if and only if it has one, or every earlier one is spent. -/
theorem format_meets_own_override_iff {engine : Engine σ} {patience : Nat} {bytes : List UInt8} {f : Formatter σ}
    (attached : f.Attached v engine patience bytes) (operations : List Operation) (operation : Operation)
    {before after : List Contact} {c : Contact}
    (made : f.conversation v (operations ++ [operation]) = before ++ c :: after)
    (later : (f.conversation v operations).length ≤ before.length) (enters : c.name = "format") :
    ∃ request text override r, operation = .format request text override ∧
      request.coerce text override = .ok (.request r) ∧
      (Ledger.of before).override = handed r (Ledger.of (f.conversation v operations)).override ∧
      ((Ledger.of before).override = (overrideOf r.override).map Json.bytes ↔
        r.override.isVoid = false ∨ Contact.Spent (f.conversation v operations)) := by
  obtain ⟨carries, upholds, -⟩ := attached.plugin
  rw [conversation_concat] at made
  obtain ⟨request, text, override, r, same, coerced, found⟩ :=
    perform_since carries upholds (attached.watched operations) operation before c after made later enters
  refine ⟨request, text, override, r, same, coerced, found, ?_⟩
  rw [found, ← Contact.override_eq_none_iff, handed, overrideOf]
  cases r.override.isVoid with
  | false => simp
  | true => simp [conversation]

theorem override_spent_by_next_request : ∃ (f : Formatter Reference.State) (before : List Contact) (c : Contact),
    f.Attached (Reference.view .direct) (Reference.engine Reference.silent .direct) 0 moduleHeader ∧
    f.conversation (Reference.view .direct) ([Reference.broken, Reference.plain] ++ [Reference.plain]) =
      before ++ c :: [] ∧
    (f.conversation (Reference.view .direct) [Reference.broken, Reference.plain]).length ≤ before.length ∧
    c.name = "format" ∧ Contact.Spent (f.conversation (Reference.view .direct) [Reference.broken, Reference.plain]) ∧
    ∃ request text override r, Reference.plain = .format request text override ∧
      request.coerce text override = .ok (.request r) ∧ r.override.isVoid = true ∧
      (Ledger.of before).override = none := by
  obtain ⟨f, attached, talks⟩ := Reference.attached
  obtain ⟨h₁, failed, talks₁⟩ := Reference.broken_talks talks
  obtain ⟨h₂, formatted, talks₂⟩ := Reference.plain_talks talks₁
  obtain ⟨h₃, formatted', talks₃⟩ := Reference.plain_talks talks₂
  have second := run_performed formatted' (run_nil _)
  have first := talks₂.conversation (run_performed failed (run_performed formatted (run_nil _)))
  have last := talks₃.conversation (run_performed failed (run_performed formatted second))
  have later : (f.conversation (Reference.view .direct) [Reference.broken, Reference.plain]).length ≤ 6 := by
    rw [first]
    exact Nat.le_of_ble_eq_true rfl
  have spent : Contact.Spent (f.conversation (Reference.view .direct) [Reference.broken, Reference.plain]) := by
    rw [first, ← Contact.override_eq_none_iff]
    rfl
  obtain ⟨request, text, override, r, same, coerced, -, own⟩ :=
    format_meets_own_override_iff attached [Reference.broken, Reference.plain] Reference.plain last later rfl
  cases same
  cases coerced
  exact ⟨f, _, _, attached, last, later, rfl, spent, _, _, _, _, rfl, rfl, rfl, own.mpr (.inr spent)⟩

/-- An override meets a request that has none. -/
theorem override_outlives_failed_request : ∃ (f : Formatter Reference.State) (before : List Contact) (c : Contact),
    f.Attached (Reference.view .direct) (Reference.engine Reference.silent .direct) 0 moduleHeader ∧
    f.conversation (Reference.view .direct) ([Reference.broken] ++ [Reference.plain]) = before ++ c :: [] ∧
    (f.conversation (Reference.view .direct) [Reference.broken]).length ≤ before.length ∧ c.name = "format" ∧
    ∃ request text override r, Reference.plain = .format request text override ∧
      request.coerce text override = .ok (.request r) ∧
      (Ledger.of before).override ≠ (overrideOf r.override).map Json.bytes := by
  obtain ⟨f, attached, talks⟩ := Reference.attached
  obtain ⟨h₁, failed, talks₁⟩ := Reference.broken_talks talks
  obtain ⟨h₂, formatted, talks₂⟩ := Reference.plain_talks talks₁
  have first := talks₁.conversation (run_performed failed (run_nil _))
  have last := talks₂.conversation (run_performed failed (run_performed formatted (run_nil _)))
  have later : (f.conversation (Reference.view .direct) [Reference.broken]).length ≤ 4 := by
    rw [first]
    exact Nat.le_of_ble_eq_true rfl
  exact ⟨f, _, _, attached, last, later, rfl, _, _, _, _, rfl, rfl, Option.some_ne_none _⟩

end Formatter

end PluginKit
