import PluginKit.Proofs.Plugin.Contract
import PluginKit.Proofs.Plugin.Loading
import PluginKit.Proofs.Plugin.Observed

/-!
What a host says to a plugin beside moving bytes. The calls are noted with the shared bytes they found and
whether they returned, and from these notes follows what the plugin has been told to hold. Nothing is
assumed of the functions called but that they leave the plugin in order: they may trap, answer anything, or
point outside the memory.
-/

namespace PluginKit

variable {σ κ ν : Type}

open Activity Abi

/-! ## Observed transfers -/

def View.observed (v : View σ κ) : View (σ × List ν) (List ν) where
  room := v.room
  sound m s := v.sound m s.1
  shared m s := v.shared m s.1
  buffer m s := v.buffer m s.1
  kept _ s := s.2

namespace Abi

variable {g : Guest σ} {v : View σ κ} {transfer : Transfer} {note : Observer σ ν} {name : String}
  {args : List Int} {m m' : Memory} {s s' : σ × List ν} {reply : Reply}

theorem returns_observed (returned : (g.observed note).Returns name args m s reply m' s') :
    g.Returns name args m s.1 reply m' s'.1 := by
  obtain ⟨outcome, memory, state⟩ := returned
  exact ⟨outcome, memory, congrArg Prod.fst state⟩

theorem Buffered.observed {size : Nat} (abi : Buffered g v size) : Buffered (g.observed note) v.observed size where
  clear sound returned := abi.clear sound (returns_observed returned)
  locate sound returned := abi.locate sound (returns_observed returned)
  append sound fits returned := abi.append sound fits (returns_observed returned)
  expose sound fits inside returned := abi.expose sound fits inside (returns_observed returned)
  write sound fits written :=
    have ⟨after, shared, buffer, _⟩ := abi.write sound fits written
    ⟨after, shared, buffer, rfl⟩

theorem Direct.observed (abi : Direct g v) : Direct (g.observed note) v.observed where
  clear sound returned := by
    obtain ⟨address, reply, empty, place⟩ := abi.clear sound (returns_observed returned)
    refine ⟨address, reply, empty, fun data m'' length written => ?_⟩
    obtain ⟨after, shared, -⟩ := place data m'' length written
    exact ⟨after, shared, rfl⟩
  locate sound returned := abi.locate sound (returns_observed returned)

theorem Carries.observed (carries : Carries g v transfer)
    (quiet : ∀ name ∈ transfer.calls, ∀ args m s result, note name args m s result = []) :
    Carries (g.observed note) v.observed transfer where
  steady {name args m s} member sound := by
    refine ⟨(carries.steady member sound).1, ?_⟩
    change s.2 ++ note name args m s.1 _ = s.2
    rw [quiet name member, List.append_nil]
  moves := by
    have moves := carries.moves
    cases transfer with
    | buffered size positive => exact moves.observed
    | direct => exact moves.observed
    | fractional x => exact moves

def Upholds (g : Guest σ) (v : View σ κ) : Prop := ∀ name ∈ hostCalls, ∀ args m s, v.sound m s →
  v.sound (g.call name args m s).memory (g.call name args m s).state

end Abi

/-! ## Contacts -/

structure Contact where
  name : String
  args : List Int
  shared : List UInt8
  returned : Bool

namespace Contact

/-- Every call is noted but those that move bytes. -/
def note (v : View σ κ) (transfer : Transfer) : Observer σ Contact := fun name args m s result =>
  if name ∈ transfer.calls then [] else [⟨name, args, v.shared m s, result.outcome ≠ .trapped⟩]

end Contact

theorem not_mem_calls {transfer : Transfer} {name : String} (known : name ∈ hostCalls) : name ∉ transfer.calls := by
  have apart : ∀ name ∈ hostCalls, name ∉ Transfer.direct.calls ∧
      name ∉ ["clear_shared_bytes", "get_wasm_memory_buffer", "add_to_shared_bytes_from_buffer",
        "set_buffer_with_shared_bytes"] := by decide
  cases transfer with
  | direct => exact (apart name known).1
  | buffered size positive => exact (apart name known).2
  | fractional x => exact (apart name known).2

def Ledger.of (contacts : List Contact) : Ledger :=
  contacts.foldl (fun l c => l.call c.name c.args c.shared c.returned) .empty

theorem Ledger.of_append (contacts : List Contact) (c : Contact) :
    Ledger.of (contacts ++ [c]) = (Ledger.of contacts).call c.name c.args c.shared c.returned := by
  simp only [Ledger.of, List.foldl_append, List.foldl_cons, List.foldl_nil]

theorem Contact.split_concat {contacts before after : List Contact} {c d : Contact}
    (eq : contacts ++ [c] = before ++ d :: after) :
    (contacts = before ∧ c = d ∧ after = []) ∨ ∃ rest, after = rest ++ [c] ∧ contacts = before ++ d :: rest := by
  rcases List.eq_nil_or_concat after with rfl | ⟨rest, e, rfl⟩
  · obtain ⟨same, last⟩ := List.append_inj' eq rfl
    exact .inl ⟨same, (List.cons.inj last).1, rfl⟩
  · rw [List.concat_eq_append, ← List.cons_append, ← List.append_assoc] at eq
    obtain ⟨same, last⟩ := List.append_inj' eq rfl
    rw [List.concat_eq_append, (List.cons.inj last).1]
    exact .inr ⟨rest, rfl, same⟩

/-- From some point on, every contact has a property of what went before it. -/
def Contact.Since (start : Nat) (P : List Contact → Contact → Prop) (contacts : List Contact) : Prop :=
  ∀ before c after, contacts = before ++ c :: after → start ≤ before.length → P before c

namespace Contact.Since

variable {start : Nat} {P : List Contact → Contact → Prop} {contacts : List Contact} {c : Contact}

theorem of_length_le (short : contacts.length ≤ start) : Since start P contacts := by
  rintro before c after rfl le
  simp only [List.length_append, List.length_cons] at short
  omega

theorem mono {Q : List Contact → Contact → Prop} (since : Since start P contacts)
    (weaken : ∀ before c, P before c → Q before c) : Since start Q contacts :=
  fun before c after eq le => weaken before c (since before c after eq le)

theorem concat (since : Since start P contacts) (last : P contacts c) : Since start P (contacts ++ [c]) := by
  intro before d after eq le
  rcases split_concat eq with ⟨rfl, rfl, -⟩ | ⟨rest, -, eq⟩
  · exact last
  · exact since before d rest eq le

end Contact.Since

structure Plugin.Tells (v : View σ κ) (contacts : List Contact) (p q : Plugin (σ × List Contact)) : Prop where
  guest : q.guest = p.guest
  sound : v.sound q.memory q.state.1
  noted : q.state.2 = p.state.2 ++ contacts

theorem Plugin.Stays.tells {v : View σ κ} {p q : Plugin (σ × List Contact)} (stays : p.Stays v.observed q) :
    p.Tells v [] q :=
  ⟨stays.guest, stays.sound, stays.kept.trans (List.append_nil _).symm⟩

theorem Plugin.Tells.trans {v : View σ κ} {p q r : Plugin (σ × List Contact)} {first second : List Contact}
    (one : p.Tells v first q) (two : q.Tells v second r) : p.Tells v (first ++ second) r :=
  ⟨two.guest.trans one.guest, two.sound, by rw [two.noted, one.noted, List.append_assoc]⟩

namespace Formatter

def contacts (h : Formatter (σ × List Contact)) : List Contact := h.plugin.state.2

structure Watched (g : Guest σ) (v : View σ κ) (transfer : Transfer) (h : Formatter (σ × List Contact)) :
    Prop where
  guest : h.plugin.guest = g.observed (Contact.note v transfer)
  transfer : h.transfer = transfer
  sound : v.sound h.plugin.memory h.plugin.state.1

variable {g : Guest σ} {v : View σ κ} {transfer : Transfer} {h : Formatter (σ × List Contact)}
  {name : String} {args : List Int} {stage : Stage} {value : Value} {α : Type}

theorem Watched.tells {contacts : List Contact} {q : Plugin (σ × List Contact)} (watched : h.Watched g v transfer)
    (tells : h.plugin.Tells v contacts q) : Watched g v transfer { h with plugin := q } :=
  ⟨tells.guest.trans watched.guest, watched.transfer, tells.sound⟩

theorem Watched.carries (watched : h.Watched g v transfer) (carries : Carries g v transfer) :
    Carries h.plugin.guest v.observed h.transfer := by
  rw [watched.guest, watched.transfer]
  exact carries.observed fun name member args m s result => if_pos member

/-- An activity that comes down to one contact. It goes well if that returns; if not, there was none, or it
trapped. -/
def Tries (v : View σ κ) (contact : Bool → Contact) (x : Op (σ × List Contact) α)
    (h : Formatter (σ × List Contact)) : Prop :=
  ∃ q, (h.plugin.Tells v [] q ∧ ∃ e, x h = (.error e, { h with plugin := q })) ∨
    (h.plugin.Tells v [contact false] q ∧ ∃ e, x h = (.error e, { h with plugin := q })) ∨
    (h.plugin.Tells v [contact true] q ∧ ∃ a, x h = (.ok a, { h with plugin := q }))

theorem leads_of_tries {contact : Formatter (σ × List Contact) → Bool → Contact} {x : Op (σ × List Contact) α}
    {I K J : Formatter (σ × List Contact) → Prop} (tries : ∀ h, I h → h.Tries v (contact h) x)
    (silent : ∀ h q, I h → h.plugin.Tells v [] q → J { h with plugin := q })
    (trapped : ∀ h q, I h → h.plugin.Tells v [contact h false] q → J { h with plugin := q })
    (returned : ∀ h q, I h → h.plugin.Tells v [contact h true] q → K { h with plugin := q }) : Leads I K J x := by
  intro h holds
  obtain ⟨q, ⟨told, e, eq⟩ | ⟨told, e, eq⟩ | ⟨told, a, eq⟩⟩ := tries h holds
  all_goals rw [eq]
  · exact silent h q holds told
  · exact trapped h q holds told
  · exact returned h q holds told

theorem call_tries (upholds : Upholds g v) (watched : h.Watched g v transfer) (known : name ∈ hostCalls)
    (stage : Stage) (args : List Int) :
    h.Tries v (fun b => ⟨name, args, v.shared h.plugin.memory h.plugin.state.1, b⟩) (call stage name args) := by
  have sound := upholds name known args h.plugin.memory h.plugin.state.1 watched.sound
  rcases Host.call_cases stage name args h.plugin with ⟨-, eq⟩ | ⟨-, q, guest, memory, state, outcome⟩
  · exact ⟨h.plugin, .inl ⟨⟨rfl, watched.sound, (List.append_nil _).symm⟩, _, by rw [call, host_apply, eq]⟩⟩
  · rw [watched.guest] at memory state outcome
    have after : v.sound q.memory q.state.1 := by
      rw [memory, state]
      exact sound
    have noted : q.state.2 = h.plugin.state.2 ++ Contact.note v transfer name args h.plugin.memory
        h.plugin.state.1 (g.call name args h.plugin.memory h.plugin.state.1) := by rw [state]; rfl
    rw [Contact.note, if_neg (not_mem_calls known)] at noted
    refine ⟨q, .inr ?_⟩
    rcases outcome with ⟨reply, outcome, eq⟩ | ⟨outcome, eq⟩
    · change (g.call name args h.plugin.memory h.plugin.state.1).outcome = _ at outcome
      rw [outcome] at noted
      exact .inr ⟨⟨guest, after, noted⟩, reply, by rw [call, host_apply, eq]⟩
    · change (g.call name args h.plugin.memory h.plugin.state.1).outcome = _ at outcome
      rw [outcome] at noted
      exact .inl ⟨⟨guest, after, noted⟩, _, by rw [call, host_apply, eq]⟩

theorem send_tells (carries : Carries g v transfer) (watched : h.Watched g v transfer) (stage : Stage)
    (text : String) :
    ∃ q, h.plugin.Tells v [] q ∧ ((∃ e, send stage text h = (.error e, { h with plugin := q })) ∨
      send stage text h = (.ok (), { h with plugin := q }) ∧
        Utf8.encodeStrict text = .ok (v.shared q.memory q.state.1)) := by
  obtain ⟨q, stays, ⟨e, run, -⟩ | ⟨run, shared⟩⟩ :=
    Host.send_cases (watched.carries carries) watched.sound stage text
  · exact ⟨q, stays.tells, .inl ⟨e, by rw [send, get_bind, host_apply, run]⟩⟩
  · exact ⟨q, stays.tells, .inr ⟨by rw [send, get_bind, host_apply, run], shared⟩⟩

theorem sendValue_tells (carries : Carries g v transfer) (watched : h.Watched g v transfer) (stage : Stage)
    (value : Value) :
    ∃ q, h.plugin.Tells v [] q ∧ ((∃ e, sendValue stage value h = (.error e, { h with plugin := q })) ∨
      sendValue stage value h = (.ok (), { h with plugin := q }) ∧
        v.shared q.memory q.state.1 = Json.bytes value) := by
  unfold sendValue Json.write
  cases Json.unwritable? value with
  | some fault => exact ⟨h.plugin, ⟨rfl, watched.sound, (List.append_nil _).symm⟩, .inl ⟨_, rfl⟩⟩
  | none =>
      obtain ⟨q, tells, failed | ⟨run, shared⟩⟩ := send_tells carries watched stage (Json.text value)
      · exact ⟨q, tells, .inl failed⟩
      · rw [Json.encodeStrict_text] at shared
        exact ⟨q, tells, .inr ⟨run, (Except.ok.inj shared).symm⟩⟩

theorem deliver_tries (carries : Carries g v transfer) (upholds : Upholds g v) (watched : h.Watched g v transfer)
    (known : name ∈ hostCalls) (stage : Stage) (value : Value) (args : List Int) :
    h.Tries v (fun b => ⟨name, args, Json.bytes value, b⟩)
      (do sendValue stage value; let _ ← call stage name args) := by
  obtain ⟨p, sent, ⟨e, run⟩ | ⟨run, shared⟩⟩ := sendValue_tells carries watched stage value
  · exact ⟨p, .inl ⟨sent, e, bind_error run⟩⟩
  · have tried := call_tries upholds (watched.tells sent) known stage args
    -- The contact finds what was just sent.
    simp only [shared] at tried
    obtain ⟨q, ⟨told, e, eq⟩ | ⟨told, e, eq⟩ | ⟨told, reply, eq⟩⟩ := tried
    · exact ⟨q, .inl ⟨sent.trans told, e, by rw [bind_ok run, bind_error eq]⟩⟩
    · exact ⟨q, .inr (.inl ⟨sent.trans told, e, by rw [bind_ok run, bind_error eq]⟩)⟩
    · exact ⟨q, .inr (.inr ⟨sent.trans told, (), by rw [bind_ok run, bind_ok eq]; rfl⟩)⟩

theorem handOver_tries (carries : Carries g v transfer) (upholds : Upholds g v) (watched : h.Watched g v transfer)
    (known : name ∈ hostCalls) (stage : Stage) (value : Value) :
    h.Tries v (fun b => ⟨name, [], Json.bytes value, b⟩) (handOver stage value name) :=
  deliver_tries carries upholds watched known stage value []

theorem register_tries (carries : Carries g v transfer) (upholds : Upholds g v) (watched : h.Watched g v transfer)
    (value : Value) :
    h.Tries v (fun b => ⟨"register_config", [(h.configId : Int)], Json.bytes value, b⟩) (register value) := by
  have known : "register_config" ∈ hostCalls := by simp [hostCalls]
  have delivered := deliver_tries carries upholds watched known .running value [(h.configId : Int)]
  -- Sending leaves the number alone, so it may as well be read before.
  have same : register value h =
      (do sendValue .running value; let _ ← call .running "register_config" [(h.configId : Int)]) h := by
    obtain ⟨p, -, ⟨e, run⟩ | ⟨run, -⟩⟩ := sendValue_tells carries watched .running value
    · rw [register, bind_error run, bind_error run]
    · rw [register, bind_ok run, bind_ok run, get_bind]
  rwa [Tries, same]

structure Conveys (g : Guest σ) (v : View σ κ) (transfer : Transfer) : Prop where
  send : ∀ {h : Formatter (σ × List Contact)}, h.Watched g v transfer → ∀ stage text,
    h.plugin.Tells v [] (Host.send stage h.transfer text h.plugin).2
  receive : ∀ {h : Formatter (σ × List Contact)}, h.Watched g v transfer → ∀ stage patience length,
    h.plugin.Tells v [] (Host.receive stage h.transfer patience length h.plugin).2

theorem conveys_of_carries (carries : Carries g v transfer) : Conveys g v transfer where
  send {h} watched stage text := by
    obtain ⟨q, stays, ⟨e, run, -⟩ | ⟨run, -⟩⟩ := Host.send_cases (watched.carries carries) watched.sound stage text
    all_goals
      rw [run]
      exact stays.tells
  receive watched stage patience length :=
    (Host.receive_stays (watched.carries carries) watched.sound stage patience length).tells

theorem conveys_of_sound (sound : ∀ m s, v.sound m s) (g : Guest σ) (transfer : Transfer) :
    Conveys g v transfer := by
  -- Where every plugin is in order, nothing has to be known of what transfers do.
  have called : ∀ {h : Formatter (σ × List Contact)}, h.Watched g v transfer → ∀ stage, ∀ name ∈ h.transfer.calls,
      ∀ args, Raises (h.plugin.Tells v []) (PluginError.IsCall stage) (Host.call stage name args) := by
    intro h watched stage name member args
    refine Host.call_raises fun p tells => ?_
    rcases Host.call_cases stage name args p with ⟨-, eq⟩ | ⟨-, q, guest, memory, state, outcome⟩
    · rw [eq]
      exact tells
    · rw [tells.guest, watched.guest] at state
      have noted : q.state.2 = p.state.2 ++ [] := by
        rw [state]
        exact congrArg (p.state.2 ++ ·) (if_pos (watched.transfer ▸ member))
      rcases outcome with ⟨reply, -, eq⟩ | ⟨-, eq⟩
      all_goals
        rw [eq]
        exact tells.trans ⟨guest, sound _ _, noted⟩
  refine ⟨fun {h} watched stage text => ?_, fun {h} watched stage patience length => ?_⟩
  · refine (Host.send_raises (called watched stage) ?_ text).keeps h.plugin
      ⟨rfl, watched.sound, (List.append_nil _).symm⟩
    exact fun p m tells => ⟨tells.guest, sound _ _, tells.noted⟩
  · exact (Host.receive_raises (called watched stage) patience length).keeps h.plugin
      ⟨rfl, watched.sound, (List.append_nil _).symm⟩

/-! ## What contacts leave alone -/

structure Tolerates (g : Guest σ) (v : View σ κ) (transfer : Transfer) (names : List String)
    (I : Formatter (σ × List Contact) → Prop) : Prop where
  watched : ∀ {h}, I h → h.Watched g v transfer
  silent : ∀ {h q}, I h → h.plugin.Tells v [] q → I { h with plugin := q }
  contact : ∀ {h q c}, I h → c.name ∈ names → h.plugin.Tells v [c] q → I { h with plugin := q }

section

variable {I : Formatter (σ × List Contact) → Prop} {names : List String}

theorem Tolerates.call (tolerates : Tolerates g v transfer names I) (upholds : Upholds g v)
    (known : name ∈ hostCalls) (member : name ∈ names) (stage : Stage) (args : List Int) :
    Keeps I (call stage name args) := by
  intro h holds
  obtain ⟨q, ⟨told, e, eq⟩ | ⟨told, e, eq⟩ | ⟨told, reply, eq⟩⟩ :=
    call_tries upholds (tolerates.watched holds) known stage args
  all_goals rw [eq]
  · exact tolerates.silent holds told
  · exact tolerates.contact holds member told
  · exact tolerates.contact holds member told

theorem Tolerates.send (tolerates : Tolerates g v transfer names I) (conveys : Conveys g v transfer)
    (stage : Stage) (text : String) : Keeps I (send stage text) := by
  intro h holds
  exact tolerates.silent holds (conveys.send (tolerates.watched holds) stage text)

theorem Tolerates.sendValue (tolerates : Tolerates g v transfer names I) (conveys : Conveys g v transfer)
    (stage : Stage) (value : Value) : Keeps I (sendValue stage value) := by
  unfold Formatter.sendValue
  cases Json.write value with
  | ok text => exact tolerates.send conveys stage text
  | error fault => exact .throw _

theorem Tolerates.log (tolerates : Tolerates g v transfer names I) (message : String) : Keeps I (log message) :=
  fun _ holds => tolerates.silent holds ⟨rfl, (tolerates.watched holds).sound, (List.append_nil _).symm⟩

theorem Tolerates.receive (tolerates : Tolerates g v transfer names I) (conveys : Conveys g v transfer)
    (stage : Stage) (length : Reply) :
    Keeps I (do let f ← get; host (Host.receive stage f.transfer f.patience length)) := by
  intro h holds
  exact tolerates.silent holds (conveys.receive (tolerates.watched holds) stage h.patience length)

theorem receiveFrom_eq (stage : Stage) (name : String) (args : List Int) :
    receiveFrom (σ := σ) stage name args = (do
      let length ← call stage name args
      let f ← get
      host (Host.receive stage f.transfer f.patience length)) := by
  funext f
  rw [receiveFrom, get_bind, host_apply, Host.receiveFrom]
  rcases bind_cases (Host.call stage name args) (fun length => Host.receive stage f.transfer f.patience length)
    f.plugin with ⟨length, q, run, eq⟩ | ⟨e, q, run, eq⟩
  · have called : call stage name args f = (.ok length, { f with plugin := q }) := by rw [call, host_apply, run]
    rw [eq, bind_ok called, get_bind, host_apply]
  · have called : call stage name args f = (.error e, { f with plugin := q }) := by rw [call, host_apply, run]
    rw [eq, bind_error called]

theorem Tolerates.receiveFrom (tolerates : Tolerates g v transfer names I) (conveys : Conveys g v transfer)
    (upholds : Upholds g v) (known : name ∈ hostCalls) (member : name ∈ names) (stage : Stage)
    (args : List Int) : Keeps I (receiveFrom stage name args) := by
  rw [receiveFrom_eq]
  exact .bind (tolerates.call upholds known member stage args) fun length =>
    tolerates.receive conveys stage length

theorem Tolerates.sendOverride (tolerates : Tolerates g v transfer names I) (conveys : Conveys g v transfer)
    (upholds : Upholds g v) (member : "set_override_config" ∈ names) (r : FormatRequest) :
    Keeps I (sendOverride r) := by
  rw [sendOverride_eq]
  split
  · exact .pure _
  · refine .get_bind fun f => ?_
    split
    · exact .bind (tolerates.sendValue conveys _ _) fun _ =>
        .bind (tolerates.call upholds (by simp [hostCalls]) member _ _) fun _ => .pure _
    · exact .throw _

theorem Tolerates.formatReply (tolerates : Tolerates g v transfer names I) (conveys : Conveys g v transfer)
    (upholds : Upholds g v) (changed : "get_formatted_text" ∈ names) (refused : "get_error_text" ∈ names)
    (r : FormatRequest) (code : Reply) : Keeps I (formatReply r code) := by
  unfold Formatter.formatReply
  split
  · exact .bind (tolerates.log _) fun _ => .pure _
  split
  · exact .bind (tolerates.log _) fun _ =>
      tolerates.receiveFrom conveys upholds (by simp [hostCalls]) changed _ _
  split
  · exact .bind (tolerates.receiveFrom conveys upholds (by simp [hostCalls]) refused _ _) fun _ => .throw _
  · exact .throw _

structure Ignores (g : Guest σ) (v : View σ κ) (transfer : Transfer) (names : List String)
    (I : Formatter (σ × List Contact) → Prop) : Prop extends Tolerates g v transfer names I where
  renumber : ∀ {h}, I h → I { h with configId := h.configId + 1 }
  mark : ∀ {h}, I h → I { h with configured := true }

theorem Ignores.configCall (ignores : Ignores g v transfer names I) (upholds : Upholds g v)
    (configs : configCalls ⊆ names) (member : name ∈ configCalls) (args : List Int) :
    Keeps I (do let _ ← call .running name args) :=
  .bind (ignores.call upholds (configCalls_subset member) (configs member) _ _) fun _ => .pure _

theorem Ignores.handConfig (ignores : Ignores g v transfer names I) (conveys : Conveys g v transfer)
    (upholds : Upholds g v) (configs : configCalls ⊆ names) (globals plugin : Fields) :
    Keeps I (handConfig globals plugin) := by
  have called : ∀ {name : String}, name ∈ configCalls → ∀ args, Keeps I (do let _ ← Formatter.call .running name args) :=
    fun member args => ignores.configCall upholds configs member args
  have replaced : Keeps I (replaceConfig globals plugin) := by
    rw [replaceConfig_eq]
    refine .bind (.get_bind fun f => ?_) fun _ => .bind (.bind (ignores.sendValue conveys _ _) fun _ =>
      called (by simp [configCalls]) _) fun _ => .bind (ignores.sendValue conveys _ _) fun _ =>
      called (by simp [configCalls]) _
    split
    · exact called (by simp [configCalls]) _
    · exact .pure _
  have registered : Keeps I (registerConfig globals plugin) := by
    rw [registerConfig_eq]
    refine .bind (.get_bind fun f => ?_) fun _ => .bind (fun _ => ignores.renumber) fun _ =>
      .bind (ignores.sendValue conveys _ _) fun _ => .get_bind fun _ => called (by simp [configCalls]) _
    split
    · exact called (by simp [configCalls]) _
    · exact .pure _
  refine .get_bind fun f => ?_
  cases f.transfer with
  | direct => exact registered
  | buffered size positive => exact replaced
  | fractional x => exact replaced

theorem Ignores.applyConfig (ignores : Ignores g v transfer names I) (conveys : Conveys g v transfer)
    (upholds : Upholds g v) (configs : configCalls ⊆ names) (globals plugin : Fields) :
    Keeps I (applyConfig globals plugin) := by
  rw [applyConfig_eq]
  exact .bind (ignores.handConfig conveys upholds configs globals plugin) fun _ =>
    .bind (fun _ => ignores.mark) fun _ => ignores.log _

theorem Ignores.setConfig (ignores : Ignores g v transfer names I) (conveys : Conveys g v transfer)
    (upholds : Upholds g v) (configs : configCalls ⊆ names) (globals : GlobalArg) (plugin : Value) :
    Keeps I (setConfig globals plugin) := by
  unfold Formatter.setConfig
  cases globals.toFields with
  | error fault => exact .throw _
  | ok globalFields =>
      cases plugin.toMapping with
      | error fault => exact .throw _
      | ok pluginFields => exact ignores.applyConfig conveys upholds configs globalFields pluginFields

theorem Ignores.ensureConfig (ignores : Ignores g v transfer names I) (conveys : Conveys g v transfer)
    (upholds : Upholds g v) (configs : configCalls ⊆ names) : Keeps I ensureConfig := by
  refine .get_bind fun f => ?_
  split
  · exact .pure _
  · exact ignores.applyConfig conveys upholds configs [] []

theorem Ignores.ask (ignores : Ignores g v transfer names I) (conveys : Conveys g v transfer)
    (upholds : Upholds g v) (configs : configCalls ⊆ names) (known : name ∈ hostCalls) (member : name ∈ names) :
    Keeps I (ask name) := by
  refine .bind (ignores.ensureConfig conveys upholds configs) fun _ => .get_bind fun f => ?_
  refine .bind (ignores.receiveFrom conveys upholds known member _ _) fun text => ?_
  unfold parseReply
  split
  · exact .pure _
  · exact .throw _

theorem Ignores.formatRequest (ignores : Ignores g v transfer hostCalls I) (conveys : Conveys g v transfer)
    (upholds : Upholds g v) (r : FormatRequest) : Keeps I (formatRequest r) := by
  refine .bind (ignores.ensureConfig conveys upholds configCalls_subset) fun _ => ?_
  refine .bind (ignores.sendOverride conveys upholds (by simp [hostCalls]) r) fun _ => ?_
  refine .bind (ignores.send conveys _ _) fun _ => ?_
  refine .bind (ignores.call upholds (by simp [hostCalls]) (by simp [hostCalls]) _ _) fun _ => ?_
  refine .bind (ignores.send conveys _ _) fun _ => .get_bind fun f => ?_
  refine .bind (ignores.call upholds (by simp [hostCalls]) (by simp [hostCalls]) _ _) fun code => ?_
  exact ignores.formatReply conveys upholds (by simp [hostCalls]) (by simp [hostCalls]) r code

theorem Ignores.perform (ignores : Ignores g v transfer names I) (conveys : Conveys g v transfer)
    (upholds : Upholds g v) (plain : ∀ name ∈ hostCalls, name ≠ "set_override_config" → name ≠ "format" → name ∈ names)
    (operation : Operation)
    (formats : ∀ request text override r, operation = .format request text override →
      request.coerce text override = .ok (.request r) → Keeps I (Formatter.formatRequest r)) :
    Keeps I operation.perform := by
  have configs : configCalls ⊆ names := by
    intro name member
    refine plain name (configCalls_subset member) ?_ ?_ <;>
      rintro rfl <;> simp [configCalls] at member
  refine perform_keeps operation (fun globals plugin _ => ignores.setConfig conveys upholds configs globals plugin)
    formats (ignores.ensureConfig conveys upholds configs) ?_ ?_
  · intro name member
    simp only [List.mem_cons, List.not_mem_nil, or_false] at member
    rcases member with rfl | rfl <;>
      exact ignores.ask conveys upholds configs (by simp [hostCalls])
        (plain _ (by simp [hostCalls]) (by decide) (by decide))
  · intro name member
    simp only [List.mem_cons, List.not_mem_nil, or_false] at member
    rcases member with rfl | rfl <;>
      exact ignores.receiveFrom conveys upholds (by simp [hostCalls])
        (plain _ (by simp [hostCalls]) (by decide) (by decide)) _ _

end

/-! ## Conversations -/

theorem watched_ignores (g : Guest σ) (v : View σ κ) (transfer : Transfer) :
    Ignores g v transfer hostCalls (Watched g v transfer) where
  watched := id
  silent watched told := watched.tells told
  contact watched _ told := watched.tells told
  renumber watched := ⟨watched.guest, watched.transfer, watched.sound⟩
  mark watched := ⟨watched.guest, watched.transfer, watched.sound⟩

theorem perform_watched (conveys : Conveys g v transfer) (upholds : Upholds g v) (operation : Operation) :
    Keeps (Watched g v transfer) operation.perform :=
  (watched_ignores g v transfer).perform conveys upholds (fun _ known _ _ => known) operation
    fun _ _ _ r _ _ => (watched_ignores g v transfer).formatRequest conveys upholds r

def conversation (v : View σ κ) (f : Formatter σ) (operations : List Operation) : List Contact :=
  (run operations (f.observed (Contact.note v f.transfer) [])).2.contacts

theorem conversation_concat (v : View σ κ) (f : Formatter σ) (operations : List Operation) (operation : Operation) :
    f.conversation v (operations ++ [operation]) =
      (operation.perform (run operations (f.observed (Contact.note v f.transfer) [])).2).2.contacts := by
  rw [conversation, run_append]
  rfl

/-- A freshly loaded formatter whose plugin started in order and moves bytes, if it does not break off, as the
transfer that loading has found. -/
structure Attached (v : View σ κ) (engine : Engine σ) (patience : Nat) (bytes : List UInt8) (f : Formatter σ) :
    Prop where
  loaded : (load engine patience bytes).1 = .ok f
  started : ∀ p, Load.compile engine bytes = .ok p →
    Carries p.guest v f.transfer ∧ Upholds p.guest v ∧ v.sound p.memory p.state

namespace Attached

variable {engine : Engine σ} {patience : Nat} {bytes : List UInt8} {f : Formatter σ}

theorem plugin (attached : f.Attached v engine patience bytes) :
    Carries f.plugin.guest v f.transfer ∧ Upholds f.plugin.guest v ∧
      v.sound f.plugin.memory f.plugin.state := by
  refine load_keeps attached.loaded attached.started ?_ fun _ _ holds => holds
  rintro name member p ⟨carries, upholds, sound⟩
  rcases Host.call_cases .running name [] p with ⟨-, eq⟩ | ⟨-, q, guest, memory, state, outcome⟩
  · rw [eq]
    exact ⟨carries, upholds, sound⟩
  · have after : v.sound q.memory q.state := by
      rw [memory, state]
      exact upholds name (Load.calls_subset member) [] p.memory p.state sound
    rw [← guest] at carries upholds
    rcases outcome with ⟨_, -, eq⟩ | ⟨-, eq⟩
    all_goals
      rw [eq]
      exact ⟨carries, upholds, after⟩

theorem watched (attached : f.Attached v engine patience bytes) (operations : List Operation) :
    (run operations (f.observed (Contact.note v f.transfer) [])).2.Watched f.plugin.guest v f.transfer := by
  obtain ⟨carries, upholds, sound⟩ := attached.plugin
  exact run_keeps (perform_watched (conveys_of_carries carries) upholds) operations ⟨rfl, rfl, sound⟩

end Attached

end Formatter

end PluginKit
