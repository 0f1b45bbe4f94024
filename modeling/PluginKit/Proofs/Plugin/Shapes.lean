import PluginKit.Proofs.Plugin.Observed
import PluginKit.Proofs.Plugin.Reference
import PluginKit.Proofs.Schema.Fields

/-!
Requests in their several shapes. A path with its text beside it, an object that holds both under either of their
names, and a request made from such an object all ask for the same, whether the override is given inside or beside.
Sessions that differ only in the shapes of their requests are therefore alike.
-/

namespace PluginKit

variable {σ : Type} {fields : Fields} {p t : String} {inside : Option Fields}

namespace Schema

theorem keyFaults_distinct (distinct : fields.Distinct) : keyFaults fields = [] := by
  rw [keyFaults, List.filterMap_eq_nil_iff]
  intro field member
  obtain ⟨name, named⟩ := distinct.named field member
  rw [named]
  rfl

theorem mapping_distinct (distinct : fields.Distinct) : mapping (.object fields) = .valid fields := by
  simp only [mapping, keyFaults_distinct distinct, List.isEmpty_nil, if_true]
  rw [List.map_congr_left (g := id), List.map_id, Fields.ofPairs_distinct distinct]
  intro field member
  obtain ⟨name, named⟩ := distinct.named field member
  obtain ⟨key, value⟩ := field
  cases named
  rfl

end Schema

namespace FormatRequest

inductive Spelling where
  | camel
  | snake

namespace Spelling

def path : Spelling → String
  | .camel => "filePath"
  | .snake => "file_path"

def text : Spelling → String
  | .camel => "fileText"
  | .snake => "file_text"

def override : Spelling → String
  | .camel => "overrideConfig"
  | .snake => "override_config"

theorem apart (a b c : Spelling) : a.path ≠ b.text ∧ a.path ≠ c.override ∧ b.text ≠ c.override := by
  cases a <;> cases b <;> cases c <;> decide

end Spelling

def names : List String :=
  ["filePath", "file_path", "fileText", "file_text", "overrideConfig", "override_config"]

def overrideValue : Option Fields → Value
  | none => .null
  | some fields => .object fields

/-- An object with the parts of a request under some of their names, in any order and among fields that mean nothing
in a request. An override that is not there may be null. -/
structure Spelled (fields : Fields) (p t : String) (inside : Option Fields) (a b c : Spelling) (given extra : Fields) :
    Prop where
  said : given = [(.text c.override, overrideValue inside)] ∨ inside = none ∧ given = []
  foreign : ∀ field ∈ extra, ∀ name ∈ names, field.1 ≠ .text name
  perm : fields.Perm ((.text a.path, .text p) :: (.text b.text, .text t) :: (given ++ extra))

def Describes (fields : Fields) (p t : String) (inside : Option Fields) : Prop :=
  ∃ a b c given extra, Spelled fields p t inside a b c given extra

theorem present?_spelled {part : Spelling → String} {s : Spelling} {value : Value}
    (here : fields.get? (part s) = some value) (other : s = .snake → fields.get? (part .camel) = none) :
    Schema.present? fields [part .camel, part .snake] = some (part s, value) := by
  cases s with
  | camel => simp only [Schema.present?, here]
  | snake => simp only [Schema.present?, other rfl, here]

theorem overrideCheck_value (object : ∀ o ∈ inside, o.Distinct) :
    overrideCheck (overrideValue inside) = .valid (overrideValue inside) := by
  cases inside with
  | none => rfl
  | some o =>
      have distinct := object o rfl
      simp only [overrideCheck, overrideValue, Schema.optional, Schema.mapping_distinct distinct, Schema.Checked.map]

namespace Spelled

variable {a b c : Spelling} {given extra : Fields} {name : String}

theorem get? (spelled : Spelled fields p t inside a b c given extra) (member : name ∈ names) :
    fields.get? name =
      if a.path = name then some (.text p) else if b.text = name then some (.text t) else given.get? name := by
  obtain ⟨said, foreign, perm⟩ := spelled
  have unknown : ∀ value, (.text name, value) ∉ extra := fun value listed => foreign _ listed name member rfl
  have absent : extra.get? name = none := Fields.get?_eq_none fun field listed => foreign field listed name member
  obtain ⟨one, two, three⟩ := Spelling.apart a b c
  rw [Fields.get?_perm perm]
  · rcases said with rfl | ⟨-, rfl⟩
    all_goals
      simp only [List.cons_append, List.nil_append, Fields.get?_cons, absent, Key.text.injEq]
      rfl
  · intro v w first second
    rcases said with rfl | ⟨-, rfl⟩ <;> simp [unknown] at first second <;> grind

theorem get?_given (spelled : Spelled fields p t inside a b c given extra) (other : c.override ≠ name) :
    given.get? name = none := by
  rcases spelled.said with rfl | ⟨-, rfl⟩
  · rw [Fields.get?_cons, if_neg fun same => other (Key.text.inj same), Fields.get?_nil]
  · rfl

-- A part that is spelled the second way does not go by its first name as well.
theorem path (spelled : Spelled fields p t inside a b c given extra) :
    Schema.present? fields [Spelling.path .camel, Spelling.path .snake] = some (a.path, .text p) := by
  refine present?_spelled ?_ fun snake => ?_
  · rw [spelled.get? (by cases a <;> decide), if_pos rfl]
  · obtain ⟨one, two, -⟩ := Spelling.apart .camel b c
    rw [spelled.get? (by decide), if_neg (by rw [snake]; decide), if_neg one.symm, spelled.get?_given two.symm]

theorem text (spelled : Spelled fields p t inside a b c given extra) :
    Schema.present? fields [Spelling.text .camel, Spelling.text .snake] = some (b.text, .text t) := by
  refine present?_spelled ?_ fun snake => ?_
  · rw [spelled.get? (by cases b <;> decide), if_neg (Spelling.apart a b c).1, if_pos rfl]
  · obtain ⟨one, -, three⟩ := Spelling.apart a .camel c
    rw [spelled.get? (by decide), if_neg one, if_neg (by rw [snake]; decide), spelled.get?_given three.symm]

theorem override (spelled : Spelled fields p t inside a b c given extra) (object : ∀ o ∈ inside, o.Distinct) :
    Schema.withDefault .null [Spelling.override .camel, Spelling.override .snake] overrideCheck fields =
      .valid (overrideValue inside) := by
  have left : ∀ s : Spelling, fields.get? s.override = given.get? s.override := by
    intro s
    obtain ⟨-, two, three⟩ := Spelling.apart a b s
    rw [spelled.get? (by cases s <;> decide), if_neg two, if_neg three]
  rcases spelled.said with rfl | ⟨rfl, rfl⟩
  · have found : Schema.present? fields [Spelling.override .camel, Spelling.override .snake] =
        some (c.override, overrideValue inside) := by
      refine present?_spelled ?_ fun snake => ?_
      · rw [left, Fields.get?_cons, if_pos rfl]
      · rw [left, snake]
        rfl
    rw [Schema.withDefault, found]
    simp only [overrideCheck_value object, Schema.Checked.under]
  · have absent : Schema.present? fields [Spelling.override .camel, Spelling.override .snake] = none := by
      simp only [Schema.present?, left, Fields.get?_nil]
    rw [Schema.withDefault, absent]
    rfl

end Spelled

theorem Describes.valid (describes : Describes fields p t inside) (object : ∀ o ∈ inside, o.Distinct) :
    ofFields fields = .valid ⟨p, t, overrideValue inside⟩ := by
  obtain ⟨a, b, c, given, extra, spelled⟩ := describes
  have path := spelled.path
  have text := spelled.text
  have override := spelled.override object
  simp only [Spelling.path, Spelling.text, Spelling.override] at path text override
  simp only [ofFields, Schema.required, path, text, override, Schema.text, Schema.Checked.under]
  rfl

theorem describes_named (p t : String) (o : Option Fields) :
    Describes (Fields.named [("file_path", .text p), ("file_text", .text t), ("override_config", overrideValue o)])
      p t o :=
  ⟨.snake, .snake, .snake, [(.text "override_config", overrideValue o)], [], .inl rfl, by simp, .refl _⟩

end FormatRequest

namespace Request

open FormatRequest

inductive Structured (p t : String) (inside : Option Fields) : Request → Prop where
  | object {fields : Fields} (describes : Describes fields p t inside) : Structured p t inside (.value (.object fields))
  | ready {fields : Fields} {r : FormatRequest} (describes : Describes fields p t inside)
      (made : FormatRequest.ofValue (.object fields) = .valid r) : Structured p t inside (.ready r)

/-- The shapes in which a text is asked to be formatted under an override. One that is passed beside a structured
request counts in place of the one inside. -/
inductive Asks (p t : String) (o : Option Fields) : Request → Value → Value → Prop where
  | positional : Asks p t o (.value (.text p)) (.text t) (overrideValue o)
  | path : Asks p t o (.path p) (.text t) (overrideValue o)
  | inside {request : Request} (structured : Structured p t o request) : Asks p t o request .null .null
  | beside {request : Request} {inside : Option Fields} (structured : Structured p t inside request)
      (object : ∀ fields ∈ inside, fields.Distinct) (given : o.isSome) : Asks p t o request .null (overrideValue o)

variable {request : Request} {text override : Value} {o : Option Fields}

theorem Structured.coerce (structured : Structured p t inside request) (object : ∀ fields ∈ inside, fields.Distinct)
    (override : Value) :
    request.coerce .null override = .ok (.request (withOverride override ⟨p, t, overrideValue inside⟩)) := by
  cases structured with
  | object describes => simp [Request.coerce, Value.isNull, describes.valid object]
  | ready describes made =>
      have same := (describes.valid object).symm.trans made
      cases same
      rfl

theorem Asks.coerce (asks : Asks p t o request text override) (object : ∀ fields ∈ o, fields.Distinct) :
    request.coerce text override = .ok (.request ⟨p, t, overrideValue o⟩) := by
  cases asks with
  | positional => simp [Request.coerce, Value.isNull, (describes_named p t o).valid object]
  | path => simp [Request.coerce, Value.isNull, (describes_named p t o).valid object]
  | inside structured => rw [structured.coerce object]; rfl
  | beside structured valid given =>
      obtain ⟨fields, rfl⟩ := Option.isSome_iff_exists.mp given
      rw [structured.coerce valid]
      rfl

end Request

inductive Operation.Alike : Operation → Operation → Prop where
  | same (operation : Operation) : Alike operation operation
  | reshaped {p t : String} {o : Option Fields} {request request' : Request} {text text' override override' : Value}
      (object : ∀ fields ∈ o, fields.Distinct) (first : request.Asks p t o text override)
      (second : request'.Asks p t o text' override') :
      Alike (.format request text override) (.format request' text' override')

namespace Formatter

theorem perform_alike {operation operation' : Operation} (alike : operation.Alike operation') :
    operation.perform (σ := σ) = operation'.perform := by
  cases alike with
  | same => rfl
  | reshaped object first second =>
      simp only [Operation.perform, format, first.coerce object, second.coerce object]

theorem run_alike {first second : List Operation} (alike : List.Forall₂ Operation.Alike first second)
    (f : Formatter σ) : run first f = run second f := by
  induction alike generalizing f with
  | nil => rfl
  | cons head _ ih => rw [run_cons, run_cons, perform_alike head, ih]

def calls (f : Formatter σ) (operations : List Operation) : List (String × List Int) :=
  (run operations (f.observed (fun name args _ _ _ => [(name, args)]) [])).2.plugin.state.2

/-- Sessions that differ only in the shapes of their requests have the same results, make the same calls and leave the
same behind. -/
theorem shapes_interchangeable {first second : List Operation} (alike : List.Forall₂ Operation.Alike first second)
    (f : Formatter σ) : run first f = run second f ∧ f.calls first = f.calls second :=
  ⟨run_alike alike f, by rw [calls, run_alike alike]; rfl⟩

def noted : Fields :=
  [(.text "override_config", .null), (.text "note", .flag true)] ++
    [(.text "filePath", .text "a.json"), (.text "file_text", .text "x")]

theorem note_unnoticed :
    let plugin := ⟨Reference.guest Reference.echoRule .direct, Reference.start .direct, Reference.idle, []⟩
    let f : Formatter Reference.State := ⟨plugin, .direct, false, 0, 0⟩
    let override : Value := .object [(.text "lineWidth", .int 80)]
    let first : List Operation := [.resolve, .format (.value (.text "a.json")) (.text "x") override, .license]
    let second : List Operation := [.resolve, .format (.value (.object noted)) .null override, .license]
    run first f = run second f ∧ f.calls first = f.calls second := by
  have describes : FormatRequest.Describes noted "a.json" "x" none :=
    ⟨.camel, .snake, .snake, [(.text "override_config", .null)], [(.text "note", .flag true)], .inl rfl,
      by simp [FormatRequest.names], List.perm_append_comm⟩
  have object : ∀ fields ∈ some [(Key.text "lineWidth", Value.int 80)], Fields.Distinct fields := by
    intro fields given
    obtain rfl := Option.mem_some_iff.mp given
    exact ⟨by simp, by simp⟩
  refine shapes_interchangeable (.cons (.same _) (.cons ?_ (.cons (.same _) .nil))) _
  exact .reshaped object .positional (.beside (.object describes) (by simp) rfl)

end Formatter

end PluginKit
