import PluginKit.Proofs.Plugin.Configuring

/-!
The numbers that configurations go by on schema 4. Whatever a plugin does and wherever its calls fail, no number is
used for two registrations, a configuration that is registered and not released goes by the number that counts, and
nothing that depends on a configuration is asked for before one has been registered.
-/

namespace PluginKit

variable {σ κ : Type}

open Activity Abi

theorem Transfer.schema_eq_four {transfer : Transfer} : transfer.schema = 4 ↔ transfer = .direct := by
  cases transfer <;> simp [Transfer.schema]

theorem Ledger.registered_call (l : Ledger) {name : String} {args : List Int} {shared : List UInt8} {returned : Bool}
    (registers : name ≠ "register_config") (releases : name = "release_config" → returned = false) :
    (l.call name args shared returned).registered = l.registered := by
  by_cases formats : name = "format"
  · subst formats
    rw [Ledger.call_format]
  · rw [Ledger.call, if_neg formats]
    cases returned with
    | false => rfl
    | true =>
        simp only [if_true]
        unfold Ledger.after
        split <;> simp_all

namespace Contact

/-! ## Numbers in contacts -/

def registrations (contacts : List Contact) : List Int :=
  contacts.flatMap fun c => if c.name = "register_config" then c.args else []

def completed (contacts : List Contact) : Bool :=
  contacts.any fun c => c.name = "register_config" ∧ c.returned = true

def numbered : List String := "register_config" :: readers

/-- The number that counts while contacts are still to come: that of the next one that carries a number, and after
the last of them the formatter's own. -/
def upcoming (contacts : List Contact) (configId : Nat) : List Int :=
  match contacts.find? fun c => c.name ∈ numbered with
  | some c => c.args
  | none => [(configId : Int)]

structure Regular (before : List Contact) (c : Contact) : Prop where
  current : c.name ∈ numbered → ∀ id, (Ledger.of before).registered id ≠ none → c.args = [id]
  fresh : c.name = "register_config" → ∃ n, c.args = [n] ∧ ∀ m ∈ registrations before, m < n
  ready : c.name ∈ readers → completed before = true

variable {contacts before after : List Contact} {c : Contact} {configId : Nat}

theorem registrations_concat (contacts : List Contact) (c : Contact) :
    registrations (contacts ++ [c]) =
      registrations contacts ++ if c.name = "register_config" then c.args else [] := by
  simp [registrations]

theorem completed_concat (contacts : List Contact) (c : Contact) :
    completed (contacts ++ [c]) =
      (completed contacts || decide (c.name = "register_config" ∧ c.returned = true)) := by
  simp [completed]

theorem registrations_pairwise (regular : Since 0 Regular contacts) :
    (registrations contacts).Pairwise (· < ·) := by
  induction contacts using List.reverseRecOn with
  | nil => exact .nil
  | append_singleton contacts c ih =>
      have earlier : Since 0 Regular contacts := fun before d after eq le =>
        regular before d (after ++ [c]) (by rw [eq, List.append_assoc, List.cons_append]) le
      have last := regular contacts c [] rfl (Nat.zero_le _)
      rw [registrations_concat]
      split
      · rename_i registers
        obtain ⟨n, args, beyond⟩ := last.fresh registers
        rw [args, List.pairwise_append]
        refine ⟨ih earlier, List.pairwise_singleton _ _, fun m used k single => ?_⟩
        rw [List.mem_singleton.mp single]
        exact beyond m used
      · rw [List.append_nil]
        exact ih earlier

theorem upcoming_eq (regular : Since 0 Regular (before ++ after))
    (last : ∀ id, (Ledger.of (before ++ after)).registered id ≠ none → id = configId) {id : Int}
    (live : (Ledger.of before).registered id ≠ none) : upcoming after configId = [id] := by
  induction after generalizing before with
  | nil =>
      rw [List.append_nil] at last
      rw [last id live]
      rfl
  | cons c rest ih =>
      by_cases carries : c.name ∈ numbered
      · rw [upcoming, List.find?_cons_of_pos (by simpa using carries)]
        exact (regular before c rest rfl (Nat.zero_le _)).current carries id live
      · -- Nothing changes about what is registered until the next number is used.
        rw [upcoming, List.find?_cons_of_neg (by simpa using carries), ← upcoming]
        have same : (Ledger.of (before ++ [c])).registered = (Ledger.of before).registered := by
          simp only [numbered, readers, List.mem_cons, not_or] at carries
          rw [Ledger.of_append]
          exact (Ledger.of before).registered_call carries.1 fun releases => absurd releases carries.2.2.2.2.1
        rw [← same] at live
        rw [← List.singleton_append, ← List.append_assoc] at regular last
        exact ih regular last live

end Contact

/-! ## Tallies -/

/-- What there is to know about numbers: which are registered, which have been used, whether a registration went
well, and how the formatter counts. -/
structure Tally where
  registered : Int → Option (List UInt8)
  used : List Int
  completed : Bool
  configured : Bool
  configId : Nat

namespace Tally

def of (contacts : List Contact) (configured : Bool) (configId : Nat) : Tally :=
  ⟨(Ledger.of contacts).registered, Contact.registrations contacts, Contact.completed contacts, configured, configId⟩

def release (t : Tally) : Tally :=
  { t with registered := fun n => if n = t.configId then none else t.registered n }

def attempt (t : Tally) : Tally := { t with used := t.used ++ [(t.configId : Int)] }

def register (t : Tally) (shared : List UInt8) : Tally :=
  { t.attempt with
    registered := fun n => if n = t.configId then some shared else t.registered n
    completed := true }

section

variable (contacts : List Contact) (configured : Bool) (configId : Nat) (shared : List UInt8)

theorem of_release : of (contacts ++ [⟨"release_config", [(configId : Int)], shared, true⟩]) configured configId =
    (of contacts configured configId).release := by
  simp [of, release, Contact.registrations_concat, Contact.completed_concat, Ledger.of_append]
  rfl

theorem of_register : of (contacts ++ [⟨"register_config", [(configId : Int)], shared, true⟩]) configured configId =
    (of contacts configured configId).register shared := by
  simp [of, register, attempt, Contact.registrations_concat, Contact.completed_concat, Ledger.of_append]
  rfl

theorem of_attempt : of (contacts ++ [⟨"register_config", [(configId : Int)], shared, false⟩]) configured configId =
    (of contacts configured configId).attempt := by
  simp [of, attempt, Contact.registrations_concat, Contact.completed_concat, Ledger.of_append, Ledger.call]

theorem of_other {c : Contact} (registers : c.name ≠ "register_config")
    (releases : c.name = "release_config" → c.returned = false) :
    of (contacts ++ [c]) configured configId = of contacts configured configId := by
  have same : (Ledger.of (contacts ++ [c])).registered = (Ledger.of contacts).registered := by
    rw [Ledger.of_append]
    exact (Ledger.of contacts).registered_call registers releases
  simp [of, same, Contact.registrations_concat, Contact.completed_concat, registers]

end

structure Balanced (t : Tally) : Prop where
  used : ∀ m ∈ t.used, m ≤ t.configId
  live : ∀ id, t.registered id ≠ none → t.configured = true ∧ id = t.configId
  completed : t.configured = true → t.completed = true

structure Vacant (t : Tally) : Prop where
  used : ∀ m ∈ t.used, m ≤ t.configId
  vacant : ∀ id, t.registered id = none
  completed : t.configured = true → t.completed = true

structure Ahead (t : Tally) : Prop where
  used : ∀ m ∈ t.used, m < t.configId
  vacant : ∀ id, t.registered id = none
  completed : t.configured = true → t.completed = true

structure Registered (t : Tally) : Prop where
  used : ∀ m ∈ t.used, m ≤ t.configId
  live : ∀ id, t.registered id ≠ none → id = t.configId
  completed : t.completed = true

variable {t : Tally}

theorem Balanced.vacant (balanced : t.Balanced) (unconfigured : t.configured ≠ true) : t.Vacant := by
  refine ⟨balanced.used, fun id => ?_, balanced.completed⟩
  by_contra live
  exact unconfigured (balanced.live id live).1

theorem Balanced.release (balanced : t.Balanced) : t.release.Vacant := by
  refine ⟨balanced.used, fun id => ?_, balanced.completed⟩
  -- If anything is registered it goes by the number that is released.
  by_cases same : id = t.configId
  · exact if_pos same
  · by_contra live
    have held : t.registered id ≠ none := fun free => live ((if_neg same).trans free)
    exact same (balanced.live id held).2

theorem Vacant.renumber (vacant : t.Vacant) : Ahead { t with configId := t.configId + 1 } := by
  refine ⟨fun m used => ?_, vacant.vacant, vacant.completed⟩
  have := vacant.used m used
  push_cast
  omega

theorem Ahead.balanced (ahead : t.Ahead) : t.Balanced :=
  ⟨fun m used => Int.le_of_lt (ahead.used m used), fun id live => absurd (ahead.vacant id) live, ahead.completed⟩

theorem Ahead.used_attempt (ahead : t.Ahead) : ∀ m ∈ t.attempt.used, m ≤ t.configId := by
  intro m member
  rcases List.mem_append.mp member with used | last
  · exact Int.le_of_lt (ahead.used m used)
  · exact Int.le_of_eq (List.mem_singleton.mp last)

theorem Ahead.attempt (ahead : t.Ahead) : t.attempt.Balanced :=
  ⟨ahead.used_attempt, fun id live => absurd (ahead.vacant id) live, ahead.completed⟩

theorem Ahead.register (ahead : t.Ahead) (shared : List UInt8) : (t.register shared).Registered := by
  refine ⟨ahead.used_attempt, fun id live => ?_, rfl⟩
  by_contra other
  exact live ((if_neg other).trans (ahead.vacant id))

theorem Registered.mark (registered : t.Registered) : Balanced { t with configured := true } :=
  ⟨registered.used, fun id live => ⟨rfl, registered.live id live⟩, fun _ => registered.completed⟩

end Tally

namespace Formatter

/-! ## Steps -/

variable {g : Guest σ} {v : View σ κ} {P : Tally → Prop} {h : Formatter (σ × List Contact)}
  {q : Plugin (σ × List Contact)} {c : Contact}

structure Numbered (g : Guest σ) (v : View σ κ) (P : Tally → Prop) (h : Formatter (σ × List Contact)) : Prop where
  watched : h.Watched g v .direct
  since : Contact.Since 0 Contact.Regular h.contacts
  tally : P (.of h.contacts h.configured h.configId)

theorem Numbered.imp {Q : Tally → Prop} (numbered : h.Numbered g v P) (weaken : ∀ t, P t → Q t) :
    h.Numbered g v Q :=
  ⟨numbered.watched, numbered.since, weaken _ numbered.tally⟩

theorem Numbered.silent (numbered : h.Numbered g v P) (told : h.plugin.Tells v [] q) :
    Numbered g v P { h with plugin := q } := by
  have same : Formatter.contacts { h with plugin := q } = h.contacts := told.noted.trans (List.append_nil _)
  exact ⟨numbered.watched.tells told, same ▸ numbered.since, same ▸ numbered.tally⟩

theorem Numbered.contact {Q : Tally → Prop} {t : Tally} (numbered : h.Numbered g v P)
    (told : h.plugin.Tells v [c] q) (regular : Contact.Regular h.contacts c)
    (tally : .of (h.contacts ++ [c]) h.configured h.configId = t) (after : Q t) :
    Numbered g v Q { h with plugin := q } := by
  have more : Formatter.contacts { h with plugin := q } = h.contacts ++ [c] := contacts_tells told
  exact ⟨numbered.watched.tells told, more ▸ numbered.since.concat regular, more ▸ tally ▸ after⟩

theorem numbered_tolerates (g : Guest σ) (v : View σ κ) (P : Tally → Prop) :
    Tolerates g v .direct idleCalls (Numbered g v P) where
  watched numbered := numbered.watched
  silent := Numbered.silent
  contact {h q c} numbered member told := by
    obtain ⟨-, other, idle⟩ := mem_idleCalls.mp member
    have registers : c.name ≠ "register_config" := fun same => other (by simp [same, configCalls])
    have releases : c.name ≠ "release_config" := fun same => other (by simp [same, configCalls])
    have regular : Contact.Regular h.contacts c := by
      refine ⟨fun carries => ?_, fun same => absurd same registers, fun reads => absurd reads idle⟩
      exact absurd carries (by simp [Contact.numbered, registers, idle])
    exact numbered.contact told regular (Tally.of_other _ _ _ registers fun same => absurd same releases)
      numbered.tally

theorem Numbered.regular (numbered : h.Numbered g v Tally.Balanced) (configured : h.configured = true)
    {name : String} (reads : name ∈ Contact.readers) (shared : List UInt8) (returned : Bool) :
    Contact.Regular h.contacts ⟨name, [(h.configId : Int)], shared, returned⟩ := by
  refine ⟨fun _ id live => ?_, ?_, fun _ => numbered.tally.completed configured⟩
  · rw [(numbered.tally.live id live).2]
    rfl
  · rintro rfl
    exact absurd reads (by decide)

theorem releaseConfig_numbered (upholds : Upholds g v) :
    Leads (Numbered g v Tally.Balanced) (Numbered g v Tally.Vacant) (Numbered g v Tally.Balanced) releaseConfig := by
  refine .get_bind fun f numbered => ?_
  split
  · rename_i configured
    refine .bind (K := Numbered g v Tally.Vacant) ?_ fun _ => .pure _ fun _ vacant => vacant
    have reads : "release_config" ∈ Contact.readers := by simp [Contact.readers]
    have regular := numbered.regular configured reads
    refine leads_of_tries
      (fun h same => call_tries upholds (same ▸ numbered.watched) (by simp [hostCalls]) _ _) ?_ ?_ ?_
    · rintro h q rfl told
      exact numbered.silent told
    · rintro h q rfl told
      exact numbered.contact told (regular _ _) (Tally.of_other _ _ _ (by simp) fun _ => rfl) numbered.tally
    · rintro h q rfl told
      exact numbered.contact told (regular _ _) (Tally.of_release _ _ _ _) numbered.tally.release
  · rename_i unconfigured
    refine .pure _ ?_
    rintro h rfl
    exact ⟨numbered.watched, numbered.since, numbered.tally.vacant unconfigured⟩

theorem register_numbered (conveys : Conveys g v .direct) (upholds : Upholds g v) (value : Value) :
    Leads (Numbered g v Tally.Ahead) (Numbered g v Tally.Registered) (Numbered g v Tally.Balanced)
      (register value) := by
  refine .bind (((numbered_tolerates g v Tally.Ahead).sendValue conveys .running value).leads (fun _ => id)
    fun _ ahead => ahead.imp fun _ => Tally.Ahead.balanced) fun _ => .get_bind fun f ahead => ?_
  refine .bind (K := Numbered g v Tally.Registered) ?_ fun _ => .pure _ fun _ registered => registered
  have regular : ∀ shared returned,
      Contact.Regular f.contacts ⟨"register_config", [(f.configId : Int)], shared, returned⟩ := by
    refine fun shared returned => ⟨fun _ id live => absurd (ahead.tally.vacant id) live, fun _ => ?_, fun reads => ?_⟩
    · exact ⟨_, rfl, ahead.tally.used⟩
    · exact absurd reads (by simp [Contact.readers])
  refine leads_of_tries (fun h same => call_tries upholds (same ▸ ahead.watched) (by simp [hostCalls]) _ _) ?_ ?_ ?_
  · rintro h q rfl told
    exact (ahead.silent told).imp fun _ => Tally.Ahead.balanced
  · -- The number is used up even so.
    rintro h q rfl told
    exact ahead.contact told (regular _ _) (Tally.of_attempt _ _ _ _) ahead.tally.attempt
  · rintro h q rfl told
    exact ahead.contact told (regular _ _) (Tally.of_register _ _ _ _) (ahead.tally.register _)

def Enrolled (g : Guest σ) (v : View σ κ) : Formatter (σ × List Contact) → Prop :=
  Numbered g v fun t => t.Balanced ∧ t.configured = true

theorem applyConfig_numbered (conveys : Conveys g v .direct) (upholds : Upholds g v) (globals plugin : Fields) :
    Leads (Numbered g v Tally.Balanced) (Enrolled g v) (Numbered g v Tally.Balanced) (applyConfig globals plugin) := by
  have handed : Leads (Numbered g v Tally.Balanced) (Numbered g v Tally.Registered) (Numbered g v Tally.Balanced)
      (handConfig globals plugin) := by
    refine .get_bind fun f numbered => ?_
    rw [numbered.watched.transfer, registerConfig_eq]
    refine .bind ((releaseConfig_numbered upholds).imp (fun h same => same ▸ numbered) fun _ => id) fun _ =>
      .bind (K := Numbered g v Tally.Ahead) ?_ fun _ => register_numbered conveys upholds _
    intro h vacant
    exact ⟨⟨vacant.watched.guest, vacant.watched.transfer, vacant.watched.sound⟩, vacant.since,
      vacant.tally.renumber⟩
  rw [applyConfig_eq]
  refine .bind handed fun _ => .bind (K := Enrolled g v) ?_ fun _ => ?_
  · intro h registered
    exact ⟨⟨registered.watched.guest, registered.watched.transfer, registered.watched.sound⟩, registered.since,
      registered.tally.mark, rfl⟩
  · exact ((numbered_tolerates g v _).log _).leads (fun _ => id) fun _ ready => ready.imp fun _ => And.left

theorem numbered_guards (conveys : Conveys g v .direct) (upholds : Upholds g v) :
    Guards g v .direct (Numbered g v Tally.Balanced) (Enrolled g v) where
  loose := numbered_tolerates g v _
  tight := numbered_tolerates g v _
  weaken _ ready := ready.imp fun _ => And.left
  ensures := by
    refine .get_bind fun f numbered => ?_
    split
    · rename_i configured
      refine .pure _ ?_
      rintro h rfl
      exact ⟨numbered.watched, numbered.since, numbered.tally, configured⟩
    · exact (applyConfig_numbered conveys upholds [] []).imp (fun h same => same ▸ numbered) fun _ => id
  reads {name f} member ready stage := by
    have listed : ∀ name ∈ ["format", "get_resolved_config", "get_config_diagnostics"], name ∈ hostCalls ∧
        name ∈ Contact.readers ∧ name ≠ "register_config" ∧ name ≠ "release_config" := by decide
    obtain ⟨known, reads, registers, releases⟩ := listed name member
    have balanced := ready.imp fun _ => And.left
    rw [configArgs_direct ready.watched.transfer]
    have regular := balanced.regular ready.tally.2 reads
    refine leads_of_tries (fun h same => call_tries upholds (same ▸ ready.watched) known _ _) ?_ ?_ ?_
    · rintro h q rfl told
      exact balanced.silent told
    · rintro h q rfl told
      exact balanced.contact told (regular _ _) (Tally.of_other _ _ _ registers fun _ => rfl) balanced.tally
    · rintro h q rfl told
      exact ready.contact told (regular _ _)
        (Tally.of_other _ _ _ registers fun same => absurd same releases) ready.tally

theorem perform_numbered (conveys : Conveys g v .direct) (upholds : Upholds g v) (operation : Operation) :
    Keeps (Numbered g v Tally.Balanced) operation.perform := by
  have guards := numbered_guards conveys upholds
  refine guards.perform conveys upholds operation fun globals plugin _ => ?_
  unfold setConfig
  cases globals.toFields with
  | error fault => exact .throw _
  | ok globalFields =>
      cases plugin.toMapping with
      | error fault => exact .throw _
      | ok pluginFields =>
          exact fun h => ((applyConfig_numbered conveys upholds _ _).imp (fun _ => id) guards.weaken).keeps

/-! ## Sessions -/

/-- The numbers that are registered, or would be if that had not failed, increase from one to the next. At any time
of a session, what is registered and not released goes by the number that counts. What depends on a configuration
comes after a registration that went well. -/
theorem numbers_kept_in_session {engine : Engine σ} {patience : Nat} {bytes : List UInt8} {f : Formatter σ}
    (loaded : (load engine patience bytes).1 = .ok f) (schema : f.schema = 4) (v : View σ κ)
    (operations : List Operation) :
    (Contact.registrations (f.conversation v operations)).Pairwise (· < ·) ∧
    ∀ before after, f.conversation v operations = before ++ after →
      (∀ id, (Ledger.of before).registered id ≠ none →
        Contact.upcoming after (run operations f).2.configId = [id]) ∧
      ∀ c rest, after = c :: rest → c.name ∈ Contact.readers →
        ∃ d ∈ before, d.name = "register_config" ∧ d.returned = true := by
  obtain ⟨-, -, -, -, fresh, -⟩ := load_ok loaded
  have direct : f.transfer = .direct := Transfer.schema_eq_four.mp schema
  -- The shared bytes are seen as before, and every plugin is taken to be in order.
  let w : View σ κ := { v with sound := fun _ _ => True }
  have conveys : Conveys f.plugin.guest w .direct := conveys_of_sound (fun _ _ => trivial) _ _
  have upholds : Upholds f.plugin.guest w := fun _ _ _ _ _ _ => trivial
  have start : (f.observed (Contact.note w f.transfer) []).Numbered f.plugin.guest w Tally.Balanced := by
    refine ⟨⟨by rw [direct]; rfl, direct, trivial⟩, .of_length_le le_rfl, ?_, fun id live => absurd rfl live, ?_⟩
    · exact fun m used => absurd used List.not_mem_nil
    · exact fun configured => absurd configured (Bool.eq_false_iff.mp fresh)
  have numbered := run_keeps (perform_numbered conveys upholds) operations start
  have counted : (run operations f).2.configId =
      (run operations (f.observed (Contact.note w f.transfer) [])).2.configId := by
    obtain ⟨notes, same⟩ := (run_observed operations f []).2
    rw [same]
    rfl
  change (Contact.registrations (f.conversation w operations)).Pairwise (· < ·) ∧
    ∀ before after, f.conversation w operations = before ++ after → _
  have since : Contact.Since 0 Contact.Regular (f.conversation w operations) := numbered.since
  refine ⟨Contact.registrations_pairwise since, fun before after split => ⟨fun id live => ?_, ?_⟩⟩
  · rw [counted]
    have last : ∀ id, (Ledger.of (f.conversation w operations)).registered id ≠ none →
        id = (run operations (f.observed (Contact.note w f.transfer) [])).2.configId :=
      fun id live => (numbered.tally.live id live).2
    rw [split] at since last
    exact Contact.upcoming_eq since last live
  · rintro c rest rfl reads
    have completed := (since before c rest split (Nat.zero_le _)).ready reads
    simpa [Contact.completed] using completed

theorem number_counts_until_released : ∃ (f : Formatter Reference.State) (before after : List Contact),
    (load (Reference.engine Reference.silent .direct) 0 moduleHeader).1 = .ok f ∧ f.schema = 4 ∧
    f.conversation (Reference.view .direct) [Reference.configure, Reference.misconfigure, Reference.plain] =
      before ++ after ∧
    (Ledger.of before).registered 1 ≠ none ∧
    Contact.upcoming after
      (run [Reference.configure, Reference.misconfigure, Reference.plain] f).2.configId = [1] := by
  obtain ⟨f, attached, talks⟩ := Reference.attached
  obtain ⟨h₁, configured, talks₁⟩ := Reference.configure_talks talks
  obtain ⟨h₂, failed, talks₂⟩ := Reference.misconfigure_talks talks₁
  obtain ⟨h₃, formatted, talks₃⟩ := Reference.plain_talks talks₂
  have schema : f.schema = 4 := Transfer.schema_eq_four.mpr talks.transfer
  have said := talks₃.conversation (run_performed configured (run_performed failed (run_performed formatted (run_nil _))))
  obtain ⟨-, kept⟩ := numbers_kept_in_session attached.loaded schema (Reference.view .direct)
    [Reference.configure, Reference.misconfigure, Reference.plain]
  have split := said.trans (List.append_assoc [_] [_] _)
  exact ⟨f, _, _, attached.loaded, schema, split, by simp [Ledger.of], (kept _ _ split).1 1 (by simp [Ledger.of])⟩

end Formatter

end PluginKit
