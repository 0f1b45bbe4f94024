import PluginKit.Proofs.Plugin.Receiving

/-!
Plugins of schema 4 that hand out fixed texts about themselves, take whatever they are handed and leave every text alone.
-/

namespace PluginKit.Reference

open Activity Formatter

structure Answers where
  info : String
  diagnostics : Option String
  resolved : Option String

def Answers.text? (a : Answers) : String → Option String
  | "get_plugin_info" => some a.info
  | "get_config_diagnostics" => a.diagnostics
  | "get_resolved_config" => a.resolved
  | _ => none

def telling (a : Answers) : Guest State :=
  { guest silent .direct with
    call := fun name args m s =>
      match a.text? name with
      | some text => ⟨.returned (.int (Utf8.bytes text).length), holding (Utf8.bytes text), s, []⟩
      | none => (guest silent .direct).call name args m s }

def tellingEngine (a : Answers) : Engine State := fun _ => some ⟨[], telling a, some (holding [], idle)⟩

theorem compliant_telling (a : Answers) : Compliant (telling a) heed where
  exported := compliant_silent.exported
  clears := compliant_silent.clears
  takes name member args shared s := by
    rcases mem_takers.mp member with rfl | rfl | rfl | rfl <;> rfl
  leaves := compliant_silent.leaves

def Tells (a : Answers) (configured : Bool) (configId : Nat) (f : Formatter State) : Prop :=
  ∃ shared s, AtRest (telling a) shared s configured configId f

variable {a : Answers} {configured : Bool} {configId : Nat} {f : Formatter State}

theorem load_tells (a : Answers) (patience : Nat) :
    ∃ f, (load (tellingEngine a) patience moduleHeader).1 = .ok f ∧ Tells a false 0 f :=
  ⟨_, rfl, _, _, _, _, rfl⟩

theorem formatRequest_tells {path text : String} {pathBytes textBytes : List UInt8}
    (tells : Tells a configured configId f) (encodedPath : Utf8.encodeStrict path = .ok pathBytes)
    (encodedText : Utf8.encodeStrict text = .ok textBytes) :
    ∃ f' configId', formatRequest ⟨path, text, .null⟩ f = (.ok text, f') ∧ Tells a true configId' f' := by
  obtain ⟨_, _, rests⟩ := tells
  cases configured with
  | true =>
      obtain ⟨f', run, after⟩ := requestText_rests (compliant_telling a) rests encodedPath encodedText
      obtain ⟨_, _, rfl⟩ := rests
      exact ⟨f', configId, run, _, _, after⟩
  | false =>
      obtain ⟨f₁, applied, rests₁⟩ := applyConfig_rests (compliant_telling a) .empty rfl rests
      obtain ⟨f', run, after⟩ := requestText_rests (compliant_telling a) rests₁ encodedPath encodedText
      obtain ⟨_, _, rfl⟩ := rests
      exact ⟨f', configId + 1, (bind_ok applied).trans run, _, _, after⟩

/-! ## Answering -/

theorem valid_of_toOption {α : Type} {x : Schema.Checked α} {value : α} (read : x.toExcept.toOption = some value) :
    x = .valid value := by
  cases x with
  | valid found => rw [Option.some.inj read]
  | invalid faults => cases read

theorem slice_holding (data : List UInt8) : (holding data).slice 0 (0 + (data.length : Int)) = data := by
  have all := Memory.slice_eq (holding data) 0 data.length (by rw [Nat.zero_add]; exact le_rfl)
  have whole : (holding data).toList = data := rfl
  rwa [List.drop_zero, whole, List.take_length] at all

theorem receiveFrom_tells {name text : String} (tells : Tells a configured configId f)
    (answer : a.text? name = some text) (args : List Int) :
    ∃ f', receiveFrom .running name args f = (.ok (Text.held text), f') ∧ Tells a configured configId f' := by
  obtain ⟨shared, s, rests⟩ := tells
  have exported : (telling a).exports name = some .function := by
    unfold Answers.text? at answer
    split at answer <;> first | rfl | cases answer
  have answered : (telling a).call name args (holding shared) s =
      ⟨.returned (.int (Utf8.bytes text).length), holding (Utf8.bytes text), s, []⟩ := by
    simp only [telling, answer]
  obtain ⟨f₁, called, journal, patience, rfl⟩ := call_rests rests exported answered .running
  have received : Host.receiveBytes .running .direct patience (.int (Utf8.bytes text).length)
      ⟨telling a, holding (Utf8.bytes text), s, journal⟩ =
        (.ok ((holding (Utf8.bytes text)).slice 0 (0 + ((Utf8.bytes text).length : Int))),
          ⟨telling a, holding (Utf8.bytes text), s, journal ++ []⟩) := rfl
  rw [slice_holding] at received
  have decoded := Host.receive_of_bytes received (Utf8.decode_bytes text)
  rw [receiveFrom_eq, bind_ok called, get_bind, host_apply, decoded]
  exact ⟨_, rfl, _, _, _, _, rfl⟩

theorem info_tells {i : PluginInfo} (tells : Tells a configured configId f)
    (unmarked : a.info.contains Text.standInMark = false) (read : PluginInfo.ofJson a.info = .valid i) :
    ∃ f', info f = (.ok i, f') ∧ Tells a configured configId f' := by
  obtain ⟨f', asked, after⟩ := receiveFrom_tells tells (rfl : a.text? "get_plugin_info" = some a.info) []
  rw [Text.held_of_unmarked unmarked] at asked
  refine ⟨f', ?_, after⟩
  rw [info, bind_ok asked, read]
  rfl

theorem ask_tells {name : String} {value : Value} (tells : Tells a true configId f)
    (answer : a.text? name = some (Json.text value)) (read : Json.parse (Json.text value) = .ok value) :
    ∃ f', ask name f = (.ok value, f') ∧ Tells a true configId f' := by
  obtain ⟨f', asked, after⟩ := receiveFrom_tells tells answer (configArgs f)
  rw [Text.held_of_unmarked (Json.unmarked_text value)] at asked
  refine ⟨f', ?_, after⟩
  have ready : ensureConfig f = (.ok (), f) := by
    obtain ⟨_, _, _, _, rfl⟩ := tells
    rfl
  rw [ask, bind_ok ready, get_bind, bind_ok asked, parseReply, read]
  rfl

/-! ## A plugin that tells what it is -/

def aboutText : String := "\x7b\"name\": \"candid\", \"version\": \"1\", \"configKey\": \"c\"\x7d"

def about : PluginInfo := ⟨"candid", "1", "c", [], [], "", "", none⟩

theorem ofJson_aboutText : PluginInfo.ofJson aboutText = .valid about := valid_of_toOption (by decide +kernel)

def candid : Answers := ⟨aboutText, none, none⟩

def candidEngine : Engine State := tellingEngine candid

theorem info_candid (tells : Tells candid configured configId f) :
    ∃ f', info f = (.ok about, f') ∧ Tells candid configured configId f' := by
  have unmarked : aboutText.contains Text.standInMark = false := by
    rw [String.contains_char_eq]
    decide
  exact info_tells tells unmarked ofJson_aboutText

end PluginKit.Reference
