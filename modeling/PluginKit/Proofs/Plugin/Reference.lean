import PluginKit.Proofs.Plugin.Contract

/-!
Plugins that keep to the contract, for every transfer and every rule by which bytes may be formatted. On
schema 3 the memory is the buffer; on schema 4 it is the shared bytes.
-/

namespace PluginKit.Reference

open Abi

abbrev Rule := Option (List UInt8) → Option (List UInt8) → List UInt8 → List UInt8 → Int × List UInt8

structure State where
  shared : List UInt8
  ledger : Ledger
  out : List UInt8

def holding (data : List UInt8) : Memory := ⟨⟨data.toArray⟩⟩

def shared (transfer : Transfer) (m : Memory) (s : State) : List UInt8 :=
  match transfer with
  | .direct => m.toList
  | _ => s.shared

def share (transfer : Transfer) (m : Memory) (s : State) : CallResult State :=
  let reply := Outcome.returned (.int s.out.length)
  match transfer with
  | .direct => ⟨reply, holding s.out, s, []⟩
  | _ => ⟨reply, m, { s with shared := s.out }, []⟩

def join (globals plugin : List UInt8) : List UInt8 :=
  Utf8.bytes "\x7b\"global\": " ++ globals ++ Utf8.bytes ", \"plugin\": " ++ plugin ++ Utf8.bytes "\x7d"

def configuration? (transfer : Transfer) (l : Ledger) (args : List Int) : Option (List UInt8) :=
  match transfer with
  | .direct => args.head?.bind l.registered
  | _ => l.globals.bind fun globals => l.plugin.map fun plugin => join globals plugin

def move (transfer : Transfer) (name : String) (args : List Int) (m : Memory) (s : State) :
    Option (Reply × Memory × State) :=
  match transfer, name with
  | .direct, "clear_shared_bytes" => some (.int 0, Memory.blank (args.headD 0).toNat, s)
  | .direct, "get_shared_bytes_ptr" => some (.int 0, m, s)
  | .buffered _ _, "clear_shared_bytes" => some (.nothing, m, { s with shared := [] })
  | .buffered _ _, "get_wasm_memory_buffer" => some (.int 0, m, s)
  | .buffered _ _, "add_to_shared_bytes_from_buffer" =>
    some (.nothing, m, { s with shared := s.shared ++ m.slice 0 (args.headD 0) })
  | .buffered size _, "set_buffer_with_shared_bytes" =>
    let data := (s.shared.drop (args.headD 0).toNat).take (min (args.getD 1 0).toNat size)
    some (.nothing, m.overwrite 0 data, s)
  | _, _ => none

def serve (rule : Rule) (transfer : Transfer) (name : String) (args : List Int) (m : Memory) (s : State) :
    CallResult State :=
  let after := { s with ledger := s.ledger.call name args (shared transfer m s) true }
  match name with
  | "format" =>
    let (code, out) := rule (configuration? transfer s.ledger args) s.ledger.override
      (s.ledger.path.getD []) (shared transfer m s)
    ⟨.returned (.int code), m, { after with out := out }, []⟩
  | "get_formatted_text" => share transfer m s
  | "get_error_text" => share transfer m s
  | "get_plugin_schema_version" => ⟨.returned (.int 3), m, s, []⟩
  | "dprint_plugin_version_4" => ⟨.returned (.int 4), m, s, []⟩
  | "get_wasm_memory_buffer_size" => ⟨.returned (.int m.size), m, s, []⟩
  | _ => ⟨.returned .nothing, m, after, []⟩

def exports (transfer : Transfer) (name : String) : Option Export :=
  if name = "memory" then some .memory
  else if name = "dprint_plugin_version_4" ∧ transfer.schema = 3 then none
  else some .function

def guest (rule : Rule) (transfer : Transfer) : Guest State where
  exports := exports transfer
  takes _ _ := true
  call name args m s :=
    match move transfer name args m s with
    | some (reply, m', s') => ⟨.returned reply, m', s', []⟩
    | none => serve rule transfer name args m s

def view (transfer : Transfer) : View State Ledger where
  room _ := True
  sound m _ := match transfer with
    | .buffered size _ => m.size = size
    | _ => True
  shared := shared transfer
  buffer _ _ := 0
  kept _ s := s.ledger

def viewOf {κ : Type} (kept : Ledger → List UInt8 → κ) (transfer : Transfer) : View State κ where
  room _ := True
  sound := (view transfer).sound
  shared := shared transfer
  buffer _ _ := 0
  kept _ s := kept s.ledger s.out

variable {κ : Type} {rule : Rule} {transfer : Transfer} {name : String} {args : List Int} {m m' : Memory}
  {s s' : State} {reply : Reply}

theorem call_of_move (moved : move transfer name args m s = some (reply, m', s')) :
    (guest rule transfer).call name args m s = ⟨.returned reply, m', s', []⟩ := by
  simp only [guest, moved]

theorem move_hostCalls (member : name ∈ hostCalls) : move transfer name args m s = none := by
  simp only [hostCalls, List.mem_cons, List.not_mem_nil, or_false] at member
  rcases member with rfl | rfl | rfl | rfl | rfl | rfl | rfl | rfl | rfl | rfl | rfl | rfl | rfl | rfl | rfl | rfl | rfl <;>
    cases transfer <;> rfl

theorem call_of_hostCalls (member : name ∈ hostCalls) :
    (guest rule transfer).call name args m s = serve rule transfer name args m s := by
  simp only [guest, move_hostCalls member]

theorem returns_of_move {r : Reply} {a : Memory} {b : State}
    (moved : move transfer name args m s = some (r, a, b))
    (returned : (guest rule transfer).Returns name args m s reply m' s') : r = reply ∧ a = m' ∧ b = s' := by
  rw [Guest.Returns, call_of_move moved] at returned
  obtain ⟨outcome, rfl, rfl⟩ := returned
  cases outcome
  exact ⟨rfl, rfl, rfl⟩

theorem completes_of_move (moved : move transfer name args m s = some (reply, m', s')) :
    (guest rule transfer).Completes name args m s := by
  rw [Guest.Completes, call_of_move moved]
  exact ⟨reply, rfl⟩

/-! ## Moving bytes -/

theorem toList_blank (count : Nat) : (Memory.blank count).toList = List.replicate count 0 := by
  rw [Memory.blank, Memory.toList, Array.toList_replicate]

theorem size_blank (count : Nat) : (Memory.blank count).size = count := by
  rw [← Memory.length_toList, toList_blank, List.length_replicate]

theorem toList_overwrite_blank (data : List UInt8) :
    ((Memory.blank data.length).overwrite 0 data).toList = data := by
  rw [Memory.toList_overwrite, List.take_zero, List.nil_append, Nat.zero_add, List.drop_of_length_le, List.append_nil]
  rw [toList_blank, List.length_replicate]

theorem window_overwrite {data : List UInt8} {size offset count : Nat} (whole : m.size = size)
    (fits : count ≤ size) (inside : offset + count ≤ data.length) :
    ((m.overwrite 0 ((data.drop offset).take (min count size))).slice 0 (0 + size)).take count =
      (data.drop offset).take count := by
  rw [Nat.min_eq_left fits]
  have length : ((data.drop offset).take count).length = count := by
    rw [List.length_take, List.length_drop]
    omega
  have room : 0 + ((data.drop offset).take count).length ≤ m.size := by omega
  have found := Memory.slice_overwrite m 0 _ room
  rw [length] at found
  rw [Memory.take_slice _ fits]
  · exact found
  · rw [Memory.size_overwrite m 0 _ room]
    omega

theorem buffered (kept : Ledger → List UInt8 → κ) (size : Nat) (positive : 0 < size) :
    Buffered (guest rule (.buffered size positive)) (viewOf kept (.buffered size positive)) size where
  clear _ returned := by
    obtain ⟨rfl, rfl, rfl⟩ := returns_of_move rfl returned
    rfl
  locate _ returned := by
    obtain ⟨rfl, rfl, rfl⟩ := returns_of_move rfl returned
    exact ⟨rfl, rfl, rfl⟩
  append _ _ returned := by
    obtain ⟨rfl, rfl, rfl⟩ := returns_of_move rfl returned
    exact ⟨Int.le_refl 0, by simp [viewOf, shared]⟩
  expose {m s _ _ _ offset count} sound fits inside returned := by
    obtain ⟨rfl, rfl, rfl⟩ := returns_of_move rfl returned
    simp only [View.window, viewOf, shared, List.headD_cons, List.getD_cons_succ, List.getD_cons_zero,
      Int.toNat_natCast, true_and]
    exact window_overwrite sound fits inside
  write {m s m' data} sound fits written := by
    obtain ⟨room, rfl⟩ := Memory.write?_some 0 written
    have whole : m.size = size := sound
    exact ⟨(Memory.size_overwrite m 0 data room).trans whole, rfl, rfl, rfl⟩

theorem direct (kept : Ledger → List UInt8 → κ) : Direct (guest rule .direct) (viewOf kept .direct) where
  clear {m s reply m' s' count} _ returned := by
    obtain ⟨rfl, rfl, rfl⟩ := returns_of_move rfl returned
    refine ⟨0, rfl, ?_, ?_⟩
    · rintro rfl
      rfl
    · rintro data m'' rfl written
      obtain ⟨-, rfl⟩ := Memory.write?_some 0 written
      exact ⟨trivial, toList_overwrite_blank data, rfl⟩
  locate {m s reply m' s'} _ returned := by
    obtain ⟨rfl, rfl, rfl⟩ := returns_of_move rfl returned
    refine ⟨0, rfl, rfl, ?_⟩
    change m.slice ((0 : Nat) : Int) (((0 : Nat) : Int) + m.toList.length) = m.toList
    rw [Memory.slice_eq _ _ _ (by rw [Memory.length_toList, Nat.zero_add]), List.drop_zero, List.take_length]

def Whole : Transfer → Prop
  | .fractional _ => False
  | _ => True

theorem carries_viewOf (kept : Ledger → List UInt8 → κ) (whole : Whole transfer) :
    Carries (guest rule transfer) (viewOf kept transfer) transfer where
  steady {name args m s} member sound := by
    cases transfer with
    | fractional x => exact whole.elim
    | direct =>
        simp only [Transfer.calls, List.mem_cons, List.not_mem_nil, or_false] at member
        rcases member with rfl | rfl <;> exact ⟨trivial, rfl⟩
    | buffered size positive =>
        simp only [Transfer.calls, List.mem_cons, List.not_mem_nil, or_false] at member
        rcases member with rfl | rfl | rfl | rfl
        · exact ⟨sound, rfl⟩
        · exact ⟨sound, rfl⟩
        · exact ⟨sound, rfl⟩
        · have whole : m.size = size := sound
          rw [call_of_move rfl]
          refine ⟨Eq.trans (Memory.size_overwrite m 0 _ ?_) whole, rfl⟩
          rw [List.length_take]
          omega
  moves := by
    cases transfer with
    | fractional x => exact whole.elim
    | direct => exact direct kept
    | buffered size positive => exact buffered kept size positive

theorem carries (whole : Whole transfer) : Carries (guest rule transfer) (view transfer) transfer :=
  carries_viewOf (fun l _ => l) whole

theorem ready_viewOf (kept : Ledger → List UInt8 → κ) (whole : Whole transfer) :
    Ready (guest rule transfer) (viewOf kept transfer) transfer where
  exported name member := by
    cases transfer with
    | fractional x => exact whole.elim
    | direct =>
        simp only [Transfer.calls, List.mem_cons, List.not_mem_nil, or_false] at member
        rcases member with rfl | rfl <;> rfl
    | buffered size positive =>
        simp only [Transfer.calls, List.mem_cons, List.not_mem_nil, or_false] at member
        rcases member with rfl | rfl | rfl | rfl <;> rfl
  serves := by
    cases transfer with
    | fractional x => exact whole.elim
    | direct =>
        refine ⟨fun _ _ => completes_of_move rfl, ?_, fun _ => completes_of_move rfl⟩
        intro m s address m' s' n _ returned
        obtain ⟨same, rfl, rfl⟩ := returns_of_move rfl returned
        cases same
        refine ⟨Int.le_refl 0, ?_⟩
        rw [size_blank]
        exact Int.le_of_eq (Int.zero_add _)
    | buffered size positive =>
        refine ⟨fun {m s} sound => ⟨Int.le_refl 0, ?_⟩, fun _ _ => completes_of_move rfl,
          fun _ => completes_of_move rfl, fun _ _ _ _ => completes_of_move rfl,
          fun _ _ _ => completes_of_move rfl⟩
        have whole : m.size = size := sound
        change (0 : Int) + size ≤ m.size
        omega

theorem ready (whole : Whole transfer) : Ready (guest rule transfer) (view transfer) transfer :=
  ready_viewOf (fun l _ => l) whole

/-! ## Formatting -/

def encode : Verdict → Int × List UInt8
  | .noChange => (0, [])
  | .change text => (1, Utf8.bytes text)
  | .error message => (2, Utf8.bytes message)

def Renders (rule : Rule) (F : Behaviour) : Prop :=
  ∀ c override path text, rule (some (Json.bytes c.record)) (override.map Json.bytes) (Utf8.bytes path)
    (Utf8.bytes text) = encode (F c override path text)

theorem bytes_record (c : Configuration) :
    Json.bytes c.record = join (Json.bytes (.object c.globals)) (Json.bytes (.object c.plugin)) := by
  have globalKey : Json.printKey (.text "global") = "\"global\"".toList := by decide
  have pluginKey : Json.printKey (.text "plugin") = "\"plugin\"".toList := by decide
  have text : Json.text c.record = "\x7b\"global\": " ++ Json.text (.object c.globals) ++
      ", \"plugin\": " ++ Json.text (.object c.plugin) ++ "\x7d" := by
    apply String.toList_inj.mp
    simp [Json.text, Configuration.record, Value.record, Fields.named, Json.print, Json.printFields,
      globalKey, pluginKey]
  rw [Json.bytes, text]
  simp only [Utf8.bytes_append]
  rfl

theorem configuration?_of_inForce {l : Ledger} {c : Configuration} (inForce : l.InForce transfer args c) :
    configuration? transfer l args = some (Json.bytes c.record) := by
  cases transfer with
  | direct =>
      obtain ⟨id, rfl, found⟩ := inForce
      exact found
  | buffered size positive =>
      obtain ⟨globals, plugin⟩ := inForce
      simp only [configuration?, globals, plugin, bytes_record, Option.bind_some, Option.map_some]
  | fractional x =>
      obtain ⟨globals, plugin⟩ := inForce
      simp only [configuration?, globals, plugin, bytes_record, Option.bind_some, Option.map_some]

theorem share_holds (sound : (view transfer).sound m s) :
    (view transfer).sound (share transfer m s).memory (share transfer m s).state ∧
      (share transfer m s).state.ledger = s.ledger ∧
      (share transfer m s).outcome = .returned (.int s.out.length) ∧
      shared transfer (share transfer m s).memory (share transfer m s).state = s.out := by
  cases transfer <;> exact ⟨sound, rfl, rfl, rfl⟩

theorem serve_holds (member : name ∈ hostCalls) (sound : (view transfer).sound m s) :
    (∃ reply, (serve rule transfer name args m s).outcome = .returned reply) ∧
    (view transfer).sound (serve rule transfer name args m s).memory (serve rule transfer name args m s).state ∧
    (serve rule transfer name args m s).state.ledger =
      s.ledger.call name args (shared transfer m s) true := by
  obtain ⟨after, ledger, outcome, -⟩ := share_holds sound
  simp only [hostCalls, List.mem_cons, List.not_mem_nil, or_false] at member
  rcases member with rfl | rfl | rfl | rfl | rfl | rfl | rfl | rfl | rfl | rfl | rfl | rfl | rfl | rfl | rfl | rfl | rfl
  -- Two of them announce a text; the others leave the memory alone.
  all_goals first
    | exact ⟨⟨_, rfl⟩, sound, rfl⟩
    | exact ⟨⟨_, outcome⟩, after, ledger⟩

theorem holds (member : name ∈ hostCalls) (sound : (view transfer).sound m s)
    (returned : (guest rule transfer).Returns name args m s reply m' s') :
    (view transfer).sound m' s' ∧ s'.ledger = s.ledger.call name args (shared transfer m s) true := by
  rw [Guest.Returns, call_of_hostCalls member] at returned
  obtain ⟨-, rfl, rfl⟩ := returned
  exact (serve_holds member sound).2

theorem shares (announces : name = "get_formatted_text" ∨ name = "get_error_text")
    (sound : (view transfer).sound m s) (returned : (guest rule transfer).Returns name args m s reply m' s') :
    reply = .int s.out.length ∧ shared transfer m' s' = s.out ∧ s'.out = s.out := by
  have called : (guest rule transfer).call name args m s = share transfer m s := by
    rcases announces with rfl | rfl <;> exact call_of_hostCalls (by simp [hostCalls])
  obtain ⟨-, -, outcome, prepared⟩ := share_holds sound
  rw [Guest.Returns, called, outcome] at returned
  obtain ⟨same, rfl, rfl⟩ := returned
  cases same
  exact ⟨rfl, prepared, by cases transfer <;> rfl⟩

theorem offers (announces : name = "get_formatted_text" ∨ name = "get_error_text") {text : String}
    (sound : (view transfer).sound m s) (out : s.out = Utf8.bytes text) :
    Offers (guest rule transfer) (view transfer) name text m s := by
  intro reply m' s' returned
  obtain ⟨rfl, prepared, -⟩ := shares announces sound returned
  rw [out] at prepared ⊢
  exact ⟨rfl, prepared⟩

theorem serve_format (rule : Rule) (transfer : Transfer) (args : List Int) (m : Memory) (s : State) :
    serve rule transfer "format" args m s =
      let formatted := rule (configuration? transfer s.ledger args) s.ledger.override (s.ledger.path.getD [])
        (shared transfer m s)
      ⟨.returned (.int formatted.1), m,
        { s with ledger := s.ledger.call "format" args (shared transfer m s) true, out := formatted.2 }, []⟩ := rfl

theorem formats {F : Behaviour} (renders : Renders rule F) {c : Configuration} {override : Option Value}
    {path text : String} (sound : (view transfer).sound m s) (inForce : s.ledger.InForce transfer args c)
    (pending : s.ledger.override = override.map Json.bytes) (found : s.ledger.path = some (Utf8.bytes path))
    (sent : shared transfer m s = Utf8.bytes text)
    (returned : (guest rule transfer).Returns "format" args m s reply m' s') :
    Delivers (guest rule transfer) (view transfer) reply m' s' (F c override path text) := by
  have known : "format" ∈ hostCalls := by simp [hostCalls]
  obtain ⟨after, -⟩ := holds known sound returned
  rw [Guest.Returns, call_of_hostCalls known, serve_format, configuration?_of_inForce inForce, pending, found, sent,
    Option.getD_some, renders c override path text] at returned
  obtain ⟨same, rfl, rfl⟩ := returned
  cases same
  generalize F c override path text = verdict at after ⊢
  cases verdict with
  | noChange => exact rfl
  | change text => exact ⟨rfl, offers (.inl rfl) after rfl⟩
  | error message => exact ⟨rfl, offers (.inr rfl) after rfl⟩

theorem implements {F : Behaviour} (whole : Whole transfer) (renders : Renders rule F) :
    Implements F (guest rule transfer) (view transfer) transfer where
  carries := carries whole
  ready := ready whole
  exported name member := by
    cases transfer <;>
      simp only [Transfer.requests, List.mem_append, List.mem_cons, List.not_mem_nil, or_false] at member <;>
      rcases member with (rfl | rfl | rfl | rfl | rfl) | rfl | rfl <;> rfl
  resettable _ := rfl
  completes member sound := by
    rw [Guest.Completes, call_of_hostCalls member]
    exact (serve_holds member sound).1
  holds := holds
  formats := formats renders

/-! ## Starting -/

def start : Transfer → Memory
  | .buffered size _ => Memory.blank size
  | _ => Memory.blank 0

theorem sound_start (transfer : Transfer) (s : State) : (view transfer).sound (start transfer) s := by
  cases transfer with
  | buffered size positive => exact size_blank size
  | direct => trivial
  | fractional x => trivial

def idle : State := ⟨[], .empty, []⟩

def engine (rule : Rule) (transfer : Transfer) : Engine State := fun _ =>
  some ⟨[], guest rule transfer, some (start transfer, idle)⟩

def echo : Behaviour := fun c override path text =>
  if text = "" then .noChange
  else match override with
    | some value => .error (Json.text value)
    | none => .change (Json.text c.record ++ path ++ text)

def echoRule : Rule := fun configuration override path text =>
  if text = [] then (0, [])
  else match override with
    | some value => (2, value)
    | none => (1, configuration.getD [] ++ path ++ text)

theorem renders_echo : Renders echoRule echo := by
  intro c override path text
  have empty : Utf8.bytes text = [] ↔ text = "" :=
    ⟨fun blank => Utf8.bytes_injective blank, fun blank => by rw [blank]; rfl⟩
  by_cases blank : text = ""
  · simp only [echoRule, echo, if_pos (empty.mpr blank), if_pos blank, encode]
  · simp only [echoRule, echo, if_neg (mt empty.mp blank), if_neg blank]
    cases override with
    | none => simp only [encode, Utf8.bytes_append, Json.bytes, Option.map_none, Option.getD_some]
    | some value => rfl

end PluginKit.Reference
