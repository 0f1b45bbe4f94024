import PluginKit.Proofs.Plugin.Conversation
import PluginKit.Proofs.Plugin.Reference

/-!
Plugins of schema 4 that take whatever they are handed and leave every text alone. What hosts say to them is told for
all of them at once; one is then listened to.
-/

namespace PluginKit.Reference

open Activity Abi Formatter

theorem overwrite_blank (data : List UInt8) : (Memory.blank data.length).overwrite 0 data = holding data := by
  have same := toList_overwrite_blank data
  generalize (Memory.blank data.length).overwrite 0 data = m at same
  subst same
  rfl

def takers : List String := ["register_config", "release_config", "set_override_config", "set_file_path"]

theorem mem_takers {name : String} : name ∈ takers ↔
    name = "register_config" ∨ name = "release_config" ∨ name = "set_override_config" ∨ name = "set_file_path" := by
  simp [takers]

/-- A plugin that takes whatever it is handed and leaves every text alone. What becomes of its state is given by a
function. -/
structure Compliant {τ : Type} (g : Guest τ) (next : τ → String → List Int → List UInt8 → τ) : Prop where
  exported : ∀ name ∈ "clear_shared_bytes" :: "format" :: takers, g.exports name = some .function
  clears : ∀ m s (count : Nat),
    g.call "clear_shared_bytes" [(count : Int)] m s = ⟨.returned (.int 0), Memory.blank count, s, []⟩
  takes : ∀ name ∈ takers, ∀ args shared s,
    g.call name args (holding shared) s = ⟨.returned .nothing, holding shared, next s name args shared, []⟩
  leaves : ∀ args shared s,
    g.call "format" args (holding shared) s = ⟨.returned (.int 0), holding shared, next s "format" args shared, []⟩

def AtRest {τ : Type} (g : Guest τ) (shared : List UInt8) (s : τ) (configured : Bool) (configId : Nat)
    (f : Formatter τ) : Prop :=
  ∃ journal patience, f = ⟨⟨g, holding shared, s, journal⟩, .direct, configured, configId, patience⟩

section

variable {τ : Type} {g : Guest τ} {next : τ → String → List Int → List UInt8 → τ} {shared data : List UInt8} {s : τ}
  {configured : Bool} {configId : Nat} {f : Formatter τ} {name path text : String} {args : List Int}
  {pathBytes textBytes : List UInt8}

theorem call_returned {reply : Reply} {m m' : Memory} {s' : τ} (exported : g.exports name = some .function)
    (called : g.call name args m s = ⟨.returned reply, m', s', []⟩) (stage : Stage) (journal : List Log.Record) :
    Host.call stage name args ⟨g, m, s, journal⟩ = (.ok reply, ⟨g, m', s', journal⟩) := by
  rw [Host.call, Plugin.call, if_neg (by rw [exported]; exact fun other => other rfl)]
  simp only [called, List.map_nil, List.append_nil]

theorem call_rests {reply : Reply} {s' : τ} (rests : AtRest g shared s configured configId f)
    (exported : g.exports name = some .function)
    (called : g.call name args (holding shared) s = ⟨.returned reply, holding data, s', []⟩) (stage : Stage) :
    ∃ f', call stage name args f = (.ok reply, f') ∧ AtRest g data s' configured configId f' := by
  obtain ⟨journal, patience, rfl⟩ := rests
  exact ⟨_, by rw [call, host_apply, call_returned exported called], journal, patience, rfl⟩

theorem send_rests (compliant : Compliant g next) (rests : AtRest g shared s configured configId f)
    (encoded : Utf8.encodeStrict text = .ok data) (stage : Stage) :
    ∃ f', send stage text f = (.ok (), f') ∧ AtRest g data s configured configId f' := by
  obtain ⟨journal, patience, rfl⟩ := rests
  have cleared := call_returned (compliant.exported _ (by simp)) (compliant.clears (holding shared) s data.length) stage
    journal
  have sent : Host.send stage .direct text ⟨g, holding shared, s, journal⟩ = (.ok (), ⟨g, holding data, s, journal⟩) := by
    rw [Host.send, encoded]
    change Host.sendBytes stage .direct data _ = _
    rw [Host.sendBytes, bind_ok cleared]
    cases data with
    | nil => rfl
    | cons b rest =>
        have written : (Memory.blank (b :: rest).length).write? 0 (b :: rest) = some (holding (b :: rest)) := by
          rw [← overwrite_blank]
          exact Memory.write?_eq _ 0 _ (by simp) (by rw [size_blank, Nat.zero_add])
        rw [List.isEmpty_cons, if_neg Bool.false_ne_true, Host.write_int]
        simp only [written]
  rw [send, get_bind, host_apply]
  exact ⟨_, by rw [sent], journal, patience, rfl⟩

theorem sendValue_rests {value : Value} (compliant : Compliant g next) (rests : AtRest g shared s configured configId f)
    (writable : Json.unwritable? value = none) (stage : Stage) :
    ∃ f', sendValue stage value f = (.ok (), f') ∧ AtRest g (Json.bytes value) s configured configId f' := by
  rw [sendValue, Json.write, writable]
  exact send_rests compliant rests (Json.encodeStrict_text value) stage

theorem hand_rests (compliant : Compliant g next) (rests : AtRest g shared s configured configId f) (stage : Stage)
    (name : String) (member : name ∈ takers) (args : List Int) :
    ∃ f', call stage name args f = (.ok .nothing, f') ∧
      AtRest g shared (next s name args shared) configured configId f' :=
  call_rests rests (compliant.exported name (List.mem_cons_of_mem _ (List.mem_cons_of_mem _ member)))
    (compliant.takes name member args shared s) stage

theorem applyConfig_rests (compliant : Compliant g next) (c : Configuration)
    (writable : Json.unwritable? c.record = none) (rests : AtRest g shared s false configId f) :
    ∃ f', applyConfig c.globals c.plugin f = (.ok (), f') ∧ AtRest g (Json.bytes c.record)
      (next s "register_config" [((configId + 1 : Nat) : Int)] (Json.bytes c.record)) true (configId + 1) f' := by
  obtain ⟨journal, patience, rfl⟩ := rests
  have counted : AtRest g shared s false (configId + 1)
      ⟨⟨g, holding shared, s, journal⟩, .direct, false, configId + 1, patience⟩ := ⟨journal, patience, rfl⟩
  obtain ⟨f₁, sent, rests₁⟩ := sendValue_rests compliant counted writable .running
  obtain ⟨f₂, called, rests₂⟩ :=
    hand_rests compliant rests₁ .running "register_config" (by simp [takers]) [((configId + 1 : Nat) : Int)]
  have handed : handConfig c.globals c.plugin ⟨⟨g, holding shared, s, journal⟩, .direct, false, configId, patience⟩ =
      (.ok (), f₂) := by
    obtain ⟨_, _, rfl⟩ := rests₁
    rw [handConfig, get_bind, registerConfig_eq]
    have ended : (do let _ ← call .running "register_config" [((configId + 1 : Nat) : Int)]) _ = (.ok (), f₂) :=
      bind_ok called
    exact (bind_ok sent).trans ended
  obtain ⟨_, _, rfl⟩ := rests₂
  rw [applyConfig_eq]
  exact ⟨_, bind_ok handed, _, _, rfl⟩

theorem requestText_rests (compliant : Compliant g next) (rests : AtRest g shared s true configId f)
    (encodedPath : Utf8.encodeStrict path = .ok pathBytes) (encodedText : Utf8.encodeStrict text = .ok textBytes) :
    ∃ f', requestText ⟨path, text, .null⟩ f = (.ok text, f') ∧
      AtRest g textBytes (next (next s "set_file_path" [] pathBytes) "format" [(configId : Int)] textBytes) true
        configId f' := by
  obtain ⟨f₁, sent, rests₁⟩ := send_rests compliant rests encodedPath .formatting
  obtain ⟨f₂, called, rests₂⟩ :=
    hand_rests compliant rests₁ .formatting "set_file_path" (by simp [takers]) []
  obtain ⟨f₃, sent', rests₃⟩ := send_rests compliant rests₂ encodedText .formatting
  obtain ⟨f₄, formatted, _, _, rfl⟩ :=
    call_rests rests₃ (compliant.exported "format" (by simp)) (compliant.leaves [(configId : Int)] _ _) .formatting
  obtain ⟨_, _, rfl⟩ := rests
  obtain ⟨_, _, rfl⟩ := rests₃
  exact ⟨_, (bind_ok sent).trans ((bind_ok called).trans ((bind_ok sent').trans (bind_ok formatted))), _, _, rfl⟩

end

/-! ## A plugin that is listened to -/

def silent : Rule := fun _ _ _ _ => (0, [])

def heed (s : State) (name : String) (args : List Int) (shared : List UInt8) : State :=
  let after := { s with ledger := s.ledger.call name args shared true }
  if name = "format" then { after with out := [] } else after

theorem compliant_silent : Compliant (guest silent .direct) heed where
  exported := by simp [takers, guest, exports, Transfer.schema]
  clears _ _ _ := rfl
  takes name member args shared s := by
    rcases mem_takers.mp member with rfl | rfl | rfl | rfl <;> rfl
  leaves _ _ _ := rfl

def hearing : Guest (State × List Contact) :=
  (guest silent .direct).observed (Contact.note (view .direct) .direct)

def hear (s : State × List Contact) (name : String) (args : List Int) (shared : List UInt8) : State × List Contact :=
  (heed s.1 name args shared, s.2 ++ [⟨name, args, shared, true⟩])

theorem compliant_hearing : Compliant hearing hear where
  exported := compliant_silent.exported
  clears m s count := by
    have noted : s.2 ++ [] = s.2 := List.append_nil _
    change (⟨.returned (.int 0), Memory.blank count, (s.1, s.2 ++ []), []⟩ : CallResult (State × List Contact)) = _
    rw [noted]
  takes name member args shared s := by
    rcases mem_takers.mp member with rfl | rfl | rfl | rfl <;> rfl
  leaves _ _ _ := rfl

def Talks (shared : List UInt8) (contacts : List Contact) (configured : Bool) (configId : Nat)
    (h : Formatter (State × List Contact)) : Prop :=
  ∃ s, AtRest hearing shared (s, contacts) configured configId h

variable {shared : List UInt8} {contacts : List Contact} {configured : Bool} {configId : Nat}
  {h : Formatter (State × List Contact)}

theorem Talks.conversation {f : Formatter State} {operations : List Operation} {results : List Operation.Result}
    (talks : Talks shared contacts configured configId h)
    (ran : run operations (f.observed (Contact.note (view .direct) f.transfer) []) = (results, h)) :
    f.conversation (view .direct) operations = contacts := by
  obtain ⟨s, journal, patience, rfl⟩ := talks
  rw [Formatter.conversation, ran]
  rfl

theorem Talks.transfer (talks : Talks shared contacts configured configId h) : h.transfer = .direct := by
  obtain ⟨s, journal, patience, rfl⟩ := talks
  rfl

def configure : Operation := .configure (.value (.object [])) (.object [])

theorem configure_talks (talks : Talks shared contacts false configId h) :
    ∃ h', configure.perform h = (.ok .done, h') ∧ Talks (Json.bytes Configuration.empty.record)
      (contacts ++ [⟨"register_config", [((configId + 1 : Nat) : Int)], Json.bytes Configuration.empty.record, true⟩])
      true (configId + 1) h' := by
  obtain ⟨s, rests⟩ := talks
  obtain ⟨h', applied, after⟩ := applyConfig_rests compliant_hearing .empty rfl rests
  exact ⟨h', bind_ok applied, _, after⟩

def misconfigure : Operation := .configure (.value (.object [])) (.object [(.text "a", .set [])])

theorem misconfigure_talks (talks : Talks shared contacts true configId h) :
    ∃ h', misconfigure.perform h = (.error (.unwritable (.value "set")), h') ∧
      Talks shared (contacts ++ [⟨"release_config", [(configId : Int)], shared, true⟩]) true (configId + 1) h' := by
  have direct := talks.transfer
  obtain ⟨s, rests⟩ := talks
  obtain ⟨h₁, called, after⟩ :=
    hand_rests compliant_hearing rests .running "release_config" (by simp [takers]) [(configId : Int)]
  have released : releaseConfig h = (.ok (), h₁) := by
    obtain ⟨_, _, rfl⟩ := rests
    rw [releaseConfig, get_bind]
    exact bind_ok called
  -- The value turns out to be unwritable only after the release.
  have handed : handConfig [] [(.text "a", .set [])] h =
      (.error (.unwritable (.value "set")), { h₁ with configId := h₁.configId + 1 }) := by
    rw [handConfig, get_bind, direct, registerConfig_eq]
    exact (bind_ok released).trans rfl
  have applied : applyConfig [] [(.text "a", .set [])] h =
      (.error (.unwritable (.value "set")), { h₁ with configId := h₁.configId + 1 }) := by
    rw [applyConfig_eq]
    exact bind_error handed
  obtain ⟨_, _, rfl⟩ := after
  exact ⟨_, bind_error applied, _, _, _, rfl⟩

def plain : Operation := .format (.path (Text.held "a")) (.text (Text.held "x")) .null

theorem plain_talks (talks : Talks shared contacts true configId h) :
    ∃ h', plain.perform h = (.ok (.text (Text.held "x")), h') ∧
      Talks (Utf8.bytes "x") (contacts ++ [⟨"set_file_path", [], Utf8.bytes "a", true⟩] ++
        [⟨"format", [(configId : Int)], Utf8.bytes "x", true⟩]) true configId h' := by
  obtain ⟨s, rests⟩ := talks
  obtain ⟨h', run, after⟩ := requestText_rests compliant_hearing rests (Utf8.encodeStrict_held "a")
    (Utf8.encodeStrict_held "x")
  obtain ⟨_, _, rfl⟩ := rests
  exact ⟨h', bind_ok run, _, after⟩

def override : Value := .object [(.text "a", .int 1)]

def broken : Operation := .format (.path (Text.held "a")) (.text (String.ofList (Text.charsOfCode 0xd800))) override

theorem broken_talks (talks : Talks shared contacts false configId h) :
    ∃ h', broken.perform h = (.error (.unencodable ⟨0xd800, 0, 1⟩), h') ∧
      Talks (Utf8.bytes "a") (contacts ++
        [⟨"register_config", [((configId + 1 : Nat) : Int)], Json.bytes Configuration.empty.record, true⟩] ++
        [⟨"set_override_config", [], Json.bytes override, true⟩] ++
        [⟨"set_file_path", [], Utf8.bytes "a", true⟩]) true (configId + 1) h' := by
  obtain ⟨s, rests⟩ := talks
  obtain ⟨h₁, applied, rests₁⟩ := applyConfig_rests compliant_hearing .empty rfl rests
  obtain ⟨h₂, sent, rests₂⟩ :=
    sendValue_rests compliant_hearing rests₁ (rfl : Json.unwritable? override = none) .formatting
  obtain ⟨h₃, called, rests₃⟩ :=
    hand_rests compliant_hearing rests₂ .formatting "set_override_config" (by simp [takers]) []
  obtain ⟨h₄, sent', rests₄⟩ := send_rests compliant_hearing rests₃ (Utf8.encodeStrict_held "a") .formatting
  obtain ⟨h₅, called', rests₅⟩ :=
    hand_rests compliant_hearing rests₄ .formatting "set_file_path" (by simp [takers]) []
  have ensured : ensureConfig h = (.ok (), h₁) := by
    obtain ⟨_, _, rfl⟩ := rests
    exact applied
  have handed : sendOverride ⟨Text.held "a", String.ofList (Text.charsOfCode 0xd800), override⟩ h₁ =
      (.ok (), h₃) := by
    obtain ⟨_, _, rfl⟩ := rests₁
    rw [sendOverride_eq]
    exact (bind_ok sent).trans (bind_ok called)
  -- By now the override has been handed over, and nothing takes it back.
  have failed : send .formatting (String.ofList (Text.charsOfCode 0xd800)) h₅ =
      (.error (.unencodable ⟨0xd800, 0, 1⟩), h₅) := by
    rw [send, get_bind, host_apply, Host.send, Utf8.encodeStrict_surrogate (by decide)]
    rfl
  have requested : formatRequest ⟨Text.held "a", String.ofList (Text.charsOfCode 0xd800), override⟩ h =
      (.error (.unencodable ⟨0xd800, 0, 1⟩), h₅) := by
    rw [formatRequest, bind_ok ensured, bind_ok handed, bind_ok sent', bind_ok called', bind_error failed]
  exact ⟨h₅, bind_error requested, _, rests₅⟩

theorem attached : ∃ f : Formatter State, f.Attached (view .direct) (engine silent .direct) 0 moduleHeader ∧
    Talks [] [] false 0 (f.observed (Contact.note (view .direct) f.transfer) []) := by
  refine ⟨_, ⟨rfl, fun p compiled => ?_⟩, _, _, _, rfl⟩
  cases compiled
  exact ⟨carries trivial, fun _ _ _ _ _ _ => trivial, trivial⟩

end PluginKit.Reference
