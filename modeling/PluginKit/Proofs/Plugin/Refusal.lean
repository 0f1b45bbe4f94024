import PluginKit.Proofs.Plugin.Delivery
import PluginKit.Proofs.Plugin.Shapes

/-!
Requests that are refused. A request that lacks a part, has one too many or has one of a wrong type is refused before
the plugin is touched; all others are accepted as they are, and what goes wrong with them is not about types, or comes
after the plugin was called.
-/

namespace PluginKit

variable {σ α β : Type}

open Activity

def PluginError.isTypeFault : PluginError → Bool
  | .mismatch _ | .badRequest _ | .textMissing | .textGiven => true
  | .badMapping (.notPair _ _) | .unwritable .number => false
  | .badMapping _ | .unwritable _ => true
  | _ => false

/-! ## Before the first call -/

/-- An activity that is begun before any call may go well without one; otherwise it makes one, or it fails but not with
a type fault. A call that was made is not forgotten. -/
structure Hesitates {s : Type} (fresh called : s → Prop) (x : ExceptT PluginError (StateM s) α) : Prop where
  keeps : Keeps called x
  waits : ∀ st, fresh st → fresh (x st).2 ∧ (∃ a, (x st).1 = .ok a) ∨ called (x st).2 ∨
    ∃ e, (x st).1 = .error e ∧ e.isTypeFault = false

namespace Hesitates

variable {s : Type} {fresh called : s → Prop} {x : ExceptT PluginError (StateM s) α}
  {k : α → ExceptT PluginError (StateM s) β}

theorem pure (a : α) : Hesitates fresh called (pure a : ExceptT PluginError (StateM s) α) :=
  ⟨.pure a, fun _ holds => .inl ⟨holds, a, rfl⟩⟩

theorem throw {e : PluginError} (other : e.isTypeFault = false) :
    Hesitates fresh called (throw e : ExceptT PluginError (StateM s) α) :=
  ⟨.throw e, fun _ _ => .inr (.inr ⟨e, rfl, other⟩)⟩

theorem modify {f : s → s} (first : ∀ st, fresh st → fresh (f st)) (later : ∀ st, called st → called (f st)) :
    Hesitates fresh called (modify f : ExceptT PluginError (StateM s) Unit) :=
  ⟨later, fun st holds => .inl ⟨first st holds, (), rfl⟩⟩

theorem bind (first : Hesitates fresh called x) (rest : ∀ a, Hesitates fresh called (k a)) :
    Hesitates fresh called (x >>= k) := by
  refine ⟨.bind first.keeps fun a => (rest a).keeps, fun st holds => ?_⟩
  have start := first.waits st holds
  rcases bind_cases x k st with ⟨a, st', run, eq⟩ | ⟨e, st', run, eq⟩ <;> rw [run] at start <;> rw [eq]
  · rcases start with ⟨still, -⟩ | made | ⟨e, failed, -⟩
    · exact (rest a).waits st' still
    · exact .inr (.inl ((rest a).keeps st' made))
    · cases failed
  · rcases start with ⟨-, a, ok⟩ | made | ⟨e', failed, other⟩
    · cases ok
    · exact .inr (.inl made)
    · cases failed
      exact .inr (.inr ⟨e, rfl, other⟩)

theorem get_bind {k : s → ExceptT PluginError (StateM s) β} (rest : ∀ a, Hesitates fresh called (k a)) :
    Hesitates fresh called ((get : ExceptT PluginError (StateM s) s) >>= k) :=
  ⟨.get_bind fun a => (rest a).keeps, fun st holds => (rest st).waits st holds⟩

end Hesitates

structure Ventures {s : Type} (fresh called : s → Prop) (x : ExceptT PluginError (StateM s) α) : Prop where
  keeps : Keeps called x
  ventures : ∀ st, fresh st → called (x st).2 ∨ ∃ e, (x st).1 = .error e ∧ e.isTypeFault = false

namespace Ventures

variable {s : Type} {fresh called : s → Prop} {x : ExceptT PluginError (StateM s) α}
  {k : α → ExceptT PluginError (StateM s) β}

theorem hesitates (ventures : Ventures fresh called x) : Hesitates fresh called x :=
  ⟨ventures.keeps, fun st holds => .inr (ventures.ventures st holds)⟩

theorem throw {e : PluginError} (other : e.isTypeFault = false) :
    Ventures fresh called (throw e : ExceptT PluginError (StateM s) α) :=
  ⟨.throw e, fun _ _ => .inr ⟨e, rfl, other⟩⟩

theorem bind (first : Ventures fresh called x) (rest : ∀ a, Keeps called (k a)) : Ventures fresh called (x >>= k) := by
  refine ⟨.bind first.keeps rest, fun st holds => ?_⟩
  have start := first.ventures st holds
  rcases bind_cases x k st with ⟨a, st', run, eq⟩ | ⟨e, st', run, eq⟩ <;> rw [run] at start <;> rw [eq]
  · rcases start with made | ⟨e, failed, -⟩
    · exact .inl (rest a st' made)
    · cases failed
  · exact start.imp_right fun ⟨e', failed, other⟩ => ⟨e', by cases failed; rfl, other⟩

theorem get_bind {k : s → ExceptT PluginError (StateM s) β} (rest : ∀ a, Ventures fresh called (k a)) :
    Ventures fresh called ((get : ExceptT PluginError (StateM s) s) >>= k) :=
  ⟨.get_bind fun a => (rest a).keeps, fun st holds => (rest st).ventures st holds⟩

end Ventures

namespace Plugin

def callNote : Observer σ (String × List Int) := fun name args _ _ _ => [(name, args)]

def Fresh (q : Plugin (σ × List (String × List Int))) : Prop := ∃ p : Plugin σ, q = p.observed callNote []

def Called (q : Plugin (σ × List (String × List Int))) : Prop :=
  ∃ (p : Plugin σ) (notes : List (String × List Int)), notes ≠ [] ∧ q = p.observed callNote notes

theorem called_bisimulation : Bisimulation fun p q => q = p ∧ Called (σ := σ) p := by
  refine .of_invariant ?_ ?_ ?_
  · rintro _ ⟨p, notes, noted, rfl⟩ name args
    rw [call_observed]
    exact ⟨_, _, List.append_ne_nil_of_left_ne_nil noted _, rfl⟩
  · rintro _ ⟨p, notes, noted, rfl⟩ m
    exact ⟨{ p with memory := m }, notes, noted, rfl⟩
  · rintro _ ⟨p, notes, noted, rfl⟩ message
    exact ⟨p.log message, notes, noted, rfl⟩

end Plugin

namespace Host

open Plugin Bisimulation

variable {stage : Stage}

theorem call_ventures (name : String) (args : List Int) :
    Ventures Fresh (Called (σ := σ)) (call stage name args) := by
  refine ⟨keeps (call_bisimilar called_bisimulation stage name args), ?_⟩
  rintro _ ⟨p, rfl⟩
  rw [call_observed, noted]
  split
  · rename_i missing
    rcases call_cases stage name args p with ⟨-, eq⟩ | ⟨function, -⟩
    · exact .inr ⟨_, by rw [eq], rfl⟩
    · exact absurd function missing
  · exact .inl ⟨_, _, List.cons_ne_nil _ _, rfl⟩

theorem sendBytes_ventures (transfer : Transfer) (data : List UInt8) :
    Ventures Fresh (Called (σ := σ)) (sendBytes stage transfer data) := by
  cases transfer with
  | direct =>
      refine .bind (call_ventures _ _) fun pointer => ?_
      split
      · exact .pure ()
      · exact keeps (write_bisimilar called_bisimulation pointer data)
  | buffered size positive =>
      exact .bind (call_ventures _ _) fun _ => keeps (sendChunks_bisimilar called_bisimulation stage size positive data)
  | fractional size =>
      refine .bind (call_ventures _ _) fun _ => ?_
      split
      · exact .pure ()
      · exact .throw _

theorem send_ventures (transfer : Transfer) (text : String) :
    Ventures Fresh (Called (σ := σ)) (send stage transfer text) := by
  unfold send
  cases Utf8.encodeStrict text with
  | ok data => exact sendBytes_ventures transfer data
  | error fault => exact .throw rfl

end Host

namespace Formatter

open Plugin Bisimulation

def Fresh (f : Formatter (σ × List (String × List Int))) : Prop := f.plugin.Fresh

def Called (f : Formatter (σ × List (String × List Int))) : Prop := f.plugin.Called

variable {stage : Stage}

theorem host_ventures {x : Host (σ × List (String × List Int)) α} (ventures : Ventures Plugin.Fresh Plugin.Called x) :
    Ventures Fresh Called (host x) :=
  ⟨fun f made => ventures.keeps f.plugin made, fun f fresh => ventures.ventures f.plugin fresh⟩

theorem call_ventures (name : String) (args : List Int) : Ventures Fresh (Called (σ := σ)) (call stage name args) :=
  host_ventures (Host.call_ventures name args)

theorem send_ventures (text : String) : Ventures Fresh (Called (σ := σ)) (send stage text) :=
  .get_bind fun f => host_ventures (Host.send_ventures f.transfer text)

theorem sendValue_ventures {value : Value} (writable : ∀ fault, Json.unwritable? value = some fault → fault = .number) :
    Ventures Fresh (Called (σ := σ)) (sendValue stage value) := by
  rw [sendValue, Json.write]
  cases found : Json.unwritable? value with
  | none => exact send_ventures _
  | some fault =>
      rw [writable fault found]
      exact .throw rfl

theorem handOver_ventures {value : Value} (writable : ∀ fault, Json.unwritable? value = some fault → fault = .number)
    (name : String) : Ventures Fresh (Called (σ := σ)) (handOver stage value name) :=
  .bind (sendValue_ventures writable) fun _ => .bind (call_ventures name []).keeps fun _ => .pure ()

theorem log_hesitates (message : String) : Hesitates Fresh (Called (σ := σ)) (log message) := by
  refine ⟨keeps_plugin (log_bisimilar called_bisimulation message), fun f fresh => ?_⟩
  obtain ⟨p, observed⟩ := fresh
  exact .inl ⟨⟨p.log message, congrArg (Plugin.log · message) observed⟩, (), rfl⟩

theorem registerConfig_hesitates : Hesitates Fresh (Called (σ := σ)) (registerConfig [] []) := by
  rw [registerConfig_eq]
  refine .bind (.get_bind fun f => ?_) fun _ => .bind (.modify (fun _ fresh => fresh) fun _ made => made) fun _ => ?_
  · split
    · exact ((call_ventures _ _).bind fun _ => .pure ()).hesitates
    · exact .pure ()
  · refine Ventures.hesitates (.bind (sendValue_ventures fun fault found => ?_) fun _ => .get_bind fun f => ?_)
    · cases found
    · exact .bind (call_ventures _ _).keeps fun _ => .pure ()

theorem replaceConfig_hesitates : Hesitates Fresh (Called (σ := σ)) (replaceConfig [] []) := by
  have handed : ∀ name, Ventures Fresh (Called (σ := σ)) (handOver .running (.object []) name) :=
    handOver_ventures fun fault found => (by cases found)
  rw [replaceConfig_eq]
  refine .bind (.get_bind fun f => ?_) fun _ => ((handed _).bind fun _ => (handed _).keeps).hesitates
  split
  · exact ((call_ventures _ _).bind fun _ => .pure ()).hesitates
  · exact .pure ()

theorem ensureConfig_hesitates : Hesitates Fresh (Called (σ := σ)) ensureConfig := by
  refine .get_bind fun f => ?_
  split
  · exact .pure ()
  rw [applyConfig_eq]
  refine .bind (.get_bind fun f => ?_) fun _ => ?_
  · split
    · exact registerConfig_hesitates
    · exact replaceConfig_hesitates
  · exact .bind (.modify (fun _ fresh => fresh) fun _ made => made) fun _ => log_hesitates _

theorem sendOverride_hesitates {r : FormatRequest}
    (writable : ∀ fault, Json.unwritable? r.override = some fault → fault = .number) :
    Hesitates Fresh (Called (σ := σ)) (sendOverride r) := by
  rw [sendOverride_eq]
  split
  · exact .pure ()
  refine .get_bind fun f => ?_
  split
  · exact (handOver_ventures writable _).hesitates
  · exact .throw rfl

theorem formatRequest_hesitates {r : FormatRequest}
    (writable : ∀ fault, Json.unwritable? r.override = some fault → fault = .number) :
    Hesitates Fresh (Called (σ := σ)) (formatRequest r) := by
  refine .bind ensureConfig_hesitates fun _ => .bind (sendOverride_hesitates writable) fun _ => ?_
  refine Ventures.hesitates (.bind (send_ventures _) fun _ => .bind (call_ventures _ _).keeps fun _ => ?_)
  refine .bind (send_ventures _).keeps fun _ => .get_bind fun f => .bind (call_ventures _ _).keeps fun code => ?_
  exact keeps_plugin (formatReply_bisimilar called_bisimulation r code)

end Formatter

/-! ## Parts of requests -/

def Fields.either (fields : Fields) (first second : String) : Option Value :=
  (fields.get? first).or (fields.get? second)

namespace Schema

variable {fields : Fields} {first second : String} {check : Value → Checked α} {a d : α}

theorem present?_either (fields : Fields) (first second : String) :
    (present? fields [first, second]).map Prod.snd = fields.either first second := by
  rw [present?, present?, present?, Fields.either]
  cases fields.get? first with
  | some v => rfl
  | none =>
      cases fields.get? second with
      | some v => rfl
      | none => rfl

theorem required_eq_valid : required [first, second] check fields = .valid a ↔
    ∃ v, fields.either first second = some v ∧ check v = .valid a := by
  rw [← present?_either, required]
  cases present? fields [first, second] with
  | none => simp
  | some found => simp [Checked.under_eq_valid]

theorem withDefault_eq_valid : withDefault d [first, second] check fields = .valid a ↔
    (fields.either first second = none ∧ d = a) ∨
      ∃ v, fields.either first second = some v ∧ check v = .valid a := by
  rw [← present?_either, withDefault]
  cases present? fields [first, second] with
  | none => simp
  | some found => simp [Checked.under_eq_valid]

theorem text_eq_valid {v : Value} {s : String} (json : Json.IsJson v) : text v = .valid s ↔ v = .text s := by
  cases json <;> simp [text, Checked.fault]

end Schema

theorem Json.IsJson.either {fields : Fields} {first second : String} {v : Value} (json : IsJson (.object fields))
    (found : fields.either first second = some v) : IsJson v := by
  cases json with
  | object distinct each =>
      rcases Option.or_eq_some_iff.mp found with here | ⟨-, here⟩
      · exact each _ (Fields.mem_of_get? here)
      · exact each _ (Fields.mem_of_get? here)

inductive Value.IsOverride : Value → Prop where
  | null : IsOverride .null
  | object {fields : Fields} (json : Json.IsJson (.object fields)) : IsOverride (.object fields)

theorem Value.IsOverride.writable {o : Value} (object : o.IsOverride) (fault : Json.Unwritable)
    (found : Json.unwritable? o = some fault) : fault = .number := by
  cases object with
  | null => cases found
  | object json => exact json.unwritable found

namespace FormatRequest

variable {fields : Fields} {r : FormatRequest}

theorem overrideCheck_override {o : Value} (object : o.IsOverride) : overrideCheck o = .valid o := by
  cases object with
  | null => rfl
  | object json =>
      rename_i inner
      cases json with
      | object distinct _ =>
          have object : ∀ fields ∈ some inner, fields.Distinct := by simpa using distinct
          exact overrideCheck_value object

theorem overrideCheck_eq_valid {v o : Value} (json : Json.IsJson v) :
    overrideCheck v = .valid o ↔ v = o ∧ o.IsOverride := by
  constructor
  · intro checked
    have object : v.IsOverride := by
      cases json with
      | null => exact .null
      | object distinct each => exact .object (.object distinct each)
      | _ => cases checked
    cases (overrideCheck_override object).symm.trans checked
    exact ⟨rfl, object⟩
  · rintro ⟨rfl, object⟩
    exact overrideCheck_override object

structure Fits (fields : Fields) (r : FormatRequest) : Prop where
  path : fields.either "filePath" "file_path" = some (.text r.path)
  text : fields.either "fileText" "file_text" = some (.text r.text)
  override : (fields.either "overrideConfig" "override_config").getD .null = r.override
  object : r.override.IsOverride

theorem ofFields_eq_valid (json : Json.IsJson (.object fields)) : ofFields fields = .valid r ↔ Fits fields r := by
  rw [ofFields]
  simp only [Schema.Checked.seq_eq_valid, Schema.Checked.map_eq_valid, Schema.required_eq_valid,
    Schema.withDefault_eq_valid]
  constructor
  · rintro ⟨_, ⟨_, ⟨p, ⟨v, path, isPath⟩, rfl⟩, t, ⟨w, text, isText⟩, rfl⟩, o, override, rfl⟩
    obtain rfl := (Schema.text_eq_valid (json.either path)).mp isPath
    obtain rfl := (Schema.text_eq_valid (json.either text)).mp isText
    rcases override with ⟨absent, rfl⟩ | ⟨u, given, checked⟩
    · exact ⟨path, text, by rw [absent]; rfl, .null⟩
    · obtain ⟨rfl, object⟩ := (overrideCheck_eq_valid (json.either given)).mp checked
      exact ⟨path, text, by rw [given]; rfl, object⟩
  · rintro ⟨path, text, override, object⟩
    refine ⟨_, ⟨_, ⟨r.path, ⟨_, path, rfl⟩, rfl⟩, r.text, ⟨_, text, rfl⟩, rfl⟩, r.override, ?_, rfl⟩
    cases given : fields.either "overrideConfig" "override_config" with
    | none =>
        rw [given] at override
        exact .inl ⟨rfl, override⟩
    | some v =>
        rw [given] at override
        obtain rfl : v = r.override := override
        exact .inr ⟨_, rfl, overrideCheck_override object⟩

end FormatRequest

/-! ## Refused and accepted requests -/

namespace Request

open FormatRequest

inductive IsPlain : Request → Prop where
  | path (p : String) : IsPlain (.path p)
  | text (p : String) : IsPlain (.value (.text p))
  | object {fields : Fields} (json : Json.IsJson (.object fields)) : IsPlain (.value (.object fields))
  | ready {r : FormatRequest} (object : r.override.IsOverride) : IsPlain (.ready r)

/-- A path without a text, a structured request with a text beside it, or an object in which a part is missing or of a
wrong type. -/
inductive Malformed : Request → Value → Prop where
  | path {p : String} : Malformed (.path p) .null
  | pathText {p : String} : Malformed (.value (.text p)) .null
  | object {fields : Fields} {t : String} : Malformed (.value (.object fields)) (.text t)
  | ready {r : FormatRequest} {t : String} : Malformed (.ready r) (.text t)
  | noPath {fields : Fields} (other : ∀ p, fields.either "filePath" "file_path" ≠ some (.text p)) :
      Malformed (.value (.object fields)) .null
  | noText {fields : Fields} (other : ∀ t, fields.either "fileText" "file_text" ≠ some (.text t)) :
      Malformed (.value (.object fields)) .null
  | noOverride {fields : Fields} {v : Value} (given : fields.either "overrideConfig" "override_config" = some v)
      (filled : v ≠ .null) (other : ∀ inner, v ≠ .object inner) : Malformed (.value (.object fields)) .null

inductive Accepted : Request → Value → Value → FormatRequest → Prop where
  | path {p t : String} {override : Value} : Accepted (.path p) (.text t) override ⟨p, t, override⟩
  | pathText {p t : String} {override : Value} : Accepted (.value (.text p)) (.text t) override ⟨p, t, override⟩
  | object {fields : Fields} {r : FormatRequest} (fits : Fits fields r) :
      Accepted (.value (.object fields)) .null .null r
  | objectBeside {fields inner : Fields} {r : FormatRequest} (fits : Fits fields r) :
      Accepted (.value (.object fields)) .null (.object inner) ⟨r.path, r.text, .object inner⟩
  | ready {r : FormatRequest} : Accepted (.ready r) .null .null r
  | readyBeside {r : FormatRequest} {inner : Fields} :
      Accepted (.ready r) .null (.object inner) ⟨r.path, r.text, .object inner⟩

variable {request : Request} {text override : Value} {fields : Fields}

theorem malformed_object_iff (json : Json.IsJson (.object fields)) :
    Malformed (.value (.object fields)) .null ↔ ∀ r, ¬Fits fields r := by
  constructor
  · rintro malformed r ⟨path, text, override, object⟩
    rw [← override] at object
    cases malformed with
    | noPath other => exact other _ path
    | noText other => exact other _ text
    | noOverride given filled other =>
        rw [given, Option.getD_some] at object
        cases object with
        | null => exact filled rfl
        | object _ => exact other _ rfl
  · intro unfit
    by_contra sound
    obtain ⟨p, path⟩ : ∃ p, fields.either "filePath" "file_path" = some (.text p) := by
      by_contra absent
      exact sound (.noPath (not_exists.mp absent))
    obtain ⟨t, text⟩ : ∃ t, fields.either "fileText" "file_text" = some (.text t) := by
      by_contra absent
      exact sound (.noText (not_exists.mp absent))
    refine unfit ⟨p, t, _⟩ ⟨path, text, rfl, ?_⟩
    cases given : fields.either "overrideConfig" "override_config" with
    | none => exact .null
    | some v =>
        by_contra absent
        refine sound (.noOverride given ?_ ?_)
        · rintro rfl
          exact absent .null
        · rintro inner rfl
          exact absent (.object (json.either given))

theorem coerce_malformed (plain : request.IsPlain) (malformed : request.Malformed text) :
    ∃ e, request.coerce text override = .error e ∧ e.isTypeFault = true := by
  have unfit : ∀ fields, request = .value (.object fields) → text = .null →
      ∃ e, request.coerce text override = .error e ∧ e.isTypeFault = true := by
    rintro fields rfl rfl
    cases plain with
    | object json =>
        cases checked : ofFields fields with
        | valid r => exact absurd ((ofFields_eq_valid json).mp checked) ((malformed_object_iff json).mp malformed r)
        | invalid faults => exact ⟨.badRequest faults, by simp [coerce, Value.isNull, checked], rfl⟩
  cases malformed with
  | path => exact ⟨_, rfl, rfl⟩
  | pathText => exact ⟨_, rfl, rfl⟩
  | object => exact ⟨_, rfl, rfl⟩
  | ready => exact ⟨_, rfl, rfl⟩
  | noPath _ => exact unfit _ rfl rfl
  | noText _ => exact unfit _ rfl rfl
  | noOverride _ _ _ => exact unfit _ rfl rfl

theorem coerce_named (p t : String) {override : Value} (beside : override.IsOverride) :
    (Request.path p).coerce (.text t) override = .ok (.request ⟨p, t, override⟩) ∧
      (Request.value (.text p)).coerce (.text t) override = .ok (.request ⟨p, t, override⟩) := by
  cases beside with
  | null => exact ⟨Asks.path.coerce (o := none) nofun, Asks.positional.coerce (o := none) nofun⟩
  | object json =>
      rename_i inner
      cases json with
      | object distinct _ =>
          have object : ∀ fields ∈ some inner, fields.Distinct := by simpa using distinct
          exact ⟨Asks.path.coerce object, Asks.positional.coerce object⟩

theorem coerce_accepted (plain : request.IsPlain) (absent : text = .null ∨ ∃ t, text = .text t)
    (beside : override.IsOverride) (sound : ¬request.Malformed text) :
    ∃ r, request.Accepted text override r ∧ request.coerce text override = .ok (.request r) ∧
      r.override.IsOverride := by
  cases plain with
  | path p =>
      rcases absent with rfl | ⟨t, rfl⟩
      · exact absurd .path sound
      · exact ⟨_, .path, (coerce_named p t beside).1, beside⟩
  | text p =>
      rcases absent with rfl | ⟨t, rfl⟩
      · exact absurd .pathText sound
      · exact ⟨_, .pathText, (coerce_named p t beside).2, beside⟩
  | object json =>
      rename_i fields
      rcases absent with rfl | ⟨t, rfl⟩
      · obtain ⟨r, fits⟩ : ∃ r, Fits fields r := by
          by_contra none
          exact sound ((malformed_object_iff json).mpr (not_exists.mp none))
        have checked := (ofFields_eq_valid json).mpr fits
        have coerced : (Request.value (.object fields)).coerce .null override =
            .ok (.request (withOverride override r)) := by
          simp [coerce, Value.isNull, checked]
        cases beside with
        | null => exact ⟨r, .object fits, coerced, fits.object⟩
        | object json' => exact ⟨_, .objectBeside fits, coerced, .object json'⟩
      · exact absurd .object sound
  | ready object =>
      rcases absent with rfl | ⟨t, rfl⟩
      · cases beside with
        | null => exact ⟨_, .ready, rfl, object⟩
        | object json' => exact ⟨_, .readyBeside, rfl, .object json'⟩
      · exact absurd .ready sound

end Request

namespace Formatter

open Plugin

variable {request : Request} {text override : Value}

theorem calls_format (f : Formatter σ) : f.calls [.format request text override] =
    (format request text override (f.observed callNote [])).2.plugin.state.2 := by
  rw [calls, run_cons, run_nil, Operation.perform, bind_pure_snd]
  rfl

theorem format_observed (f : Formatter σ) :
    (format request text override (f.observed callNote [])).1 = (format request text override f).1 :=
  (format_bisimilar (shadow_bisimulation callNote) request text override f _ (bisimilar_shadow.mpr ⟨[], rfl⟩)).1.symm

/-- A request is refused for its types before the plugin is called, with everything left as it was, if and only if it is
malformed. Otherwise it is accepted as it is. -/
theorem refused_iff_malformed (plain : request.IsPlain) (absent : text = .null ∨ ∃ t, text = .text t)
    (beside : override.IsOverride) (f : Formatter σ) :
    ((∃ e, e.isTypeFault = true ∧ format request text override f = (.error e, f) ∧
        f.calls [.format request text override] = []) ↔ request.Malformed text) ∧
    (¬request.Malformed text → ∃ r, request.Accepted text override r ∧
      request.coerce text override = .ok (.request r) ∧ format request text override f = formatRequest r f) := by
  have accepts := Request.coerce_accepted plain absent beside
  refine ⟨⟨?_, fun malformed => ?_⟩, fun sound => ?_⟩
  · rintro ⟨e, fault, failed, uncalled⟩
    by_contra sound
    obtain ⟨r, -, coerced, object⟩ := accepts sound
    have result : (format request text override (f.observed callNote [])).1 = _ := format_observed f
    rw [calls_format] at uncalled
    rw [failed] at result
    rw [format, coerced] at result uncalled
    rcases (formatRequest_hesitates object.writable).waits (f.observed callNote []) ⟨f.plugin, rfl⟩ with
      ⟨-, a, ok⟩ | ⟨p, notes, noted, plugin⟩ | ⟨e', failed', other⟩
    · cases ok.symm.trans result
    · rw [plugin] at uncalled
      exact noted uncalled
    · cases failed'.symm.trans result
      rw [other] at fault
      cases fault
  · obtain ⟨e, refused, fault⟩ := (Request.coerce_malformed plain malformed :
      ∃ e, request.coerce text override = .error e ∧ e.isTypeFault = true)
    refine ⟨e, fault, ?_, ?_⟩
    · rw [format, refused]
      rfl
    · rw [calls_format, format, refused]
      rfl
  · obtain ⟨r, accepted, coerced, -⟩ := accepts sound
    exact ⟨r, accepted, coerced, by rw [format, coerced]⟩

theorem null_path_refused :
    let plugin := ⟨Reference.guest Reference.echoRule .direct, Reference.start .direct, Reference.idle, []⟩
    let f : Formatter Reference.State := ⟨plugin, .direct, false, 0, 0⟩
    let parts : Value → Request := fun path =>
      .value (.object [(.text "file_path", .text "a.json"), (.text "filePath", path), (.text "fileText", .text "x")])
    (∃ e, e.isTypeFault = true ∧ format (parts .null) .null .null f = (.error e, f) ∧
        f.calls [.format (parts .null) .null .null] = []) ∧
      format (parts (.text "b.json")) .null .null f = formatRequest ⟨"b.json", "x", .null⟩ f := by
  intro plugin f parts
  have plain : ∀ path, Json.IsJson path → (parts path).IsPlain := by
    intro path json
    refine .object (.object ⟨by simp, by simp⟩ ?_)
    simpa using ⟨.text _, json, .text _⟩
  refine ⟨(refused_iff_malformed (plain _ .null) (.inl rfl) .null f).1.mpr (.noPath fun p found => by cases found), ?_⟩
  obtain ⟨r, accepted, -, formatted⟩ :=
    (refused_iff_malformed (plain _ (.text "b.json")) (.inl rfl) .null f).2 fun malformed => by
      cases malformed with
      | noPath other => exact other _ rfl
      | noText other => exact other _ rfl
      | noOverride given _ _ => cases given
  cases accepted with
  | object fits =>
      obtain ⟨p, t, o⟩ := r
      cases fits.path
      cases fits.text
      cases fits.override
      exact formatted

end Formatter

end PluginKit
