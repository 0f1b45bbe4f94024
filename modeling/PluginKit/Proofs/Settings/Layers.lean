import PluginKit.Proofs.Schema.Fields
import PluginKit.Settings.Groups

/-!
What the layers of settings say of one field. A layer over another leaves a field to the lower one only if it says
nothing of it; the environment says of a field what its variable holds.
-/

namespace PluginKit.Settings

theorem ofChecked_eq_ok {α : Type} {c : Schema.Checked α} {a : α} : ofChecked c = .ok a ↔ c = .valid a := by
  cases c <;> simp [ofChecked]

/-! ## Merging -/

def overlay : Option Value → Option Value → Option Value
  | some upper, some lower => some (merge upper lower)
  | some upper, none => some upper
  | none, lower => lower

theorem get?_mergeFields {upper : Fields} (distinct : upper.Distinct) (lower : Fields) (name : String) :
    (mergeFields upper lower).get? name = overlay (upper.get? name) (lower.get? name) := by
  induction upper generalizing lower with
  | nil => rw [mergeFields]; rfl
  | cons field rest ih =>
      obtain ⟨⟨own, named, absent⟩, others⟩ := distinct.of_cons
      obtain ⟨key, value⟩ := field
      cases named
      rw [mergeFields, ih others, Fields.get?_put, Fields.get?_cons]
      by_cases here : own = name
      · subst here
        rw [absent, if_pos rfl, if_pos rfl, ← Fields.get?]
        cases lower.get? own <;> rfl
      · rw [if_neg here, if_neg fun same => here (Key.text.inj same)]

theorem distinct_mergeFields {upper lower : Fields} (distinct : upper.Distinct) (below : lower.Distinct) :
    (mergeFields upper lower).Distinct := by
  induction upper generalizing lower with
  | nil => rwa [mergeFields]
  | cons field rest ih =>
      obtain ⟨⟨own, named, -⟩, others⟩ := distinct.of_cons
      obtain ⟨key, value⟩ := field
      cases named
      rw [mergeFields]
      exact ih others (below.put own _)

theorem text_merge (upper lower : Value) (s : String) :
    Schema.text (merge upper lower) = .valid s ↔ Schema.text upper = .valid s := by
  cases upper <;> cases lower <;> simp [merge, Schema.text, Schema.Checked.fault]

theorem text_overlay (value : Value) (lower : Option Value) :
    ∃ merged, overlay (some value) lower = some merged ∧
      ∀ s, Schema.text merged = .valid s ↔ Schema.text value = .valid s := by
  cases lower with
  | none => exact ⟨value, rfl, fun _ => Iff.rfl⟩
  | some below => exact ⟨merge value below, rfl, text_merge value below⟩

/-! ## Layers -/

theorem lookup_cons (key name : String) (value : Option String) (rest : List (String × Option String)) :
    List.lookup name ((key, value) :: rest) = if name = key then some value else rest.lookup name := by
  by_cases here : name = key
  · simp [here]
  · rw [List.lookup_cons, beq_false_of_ne here, if_neg here]

theorem lookup_replaced (entries : List (String × Option String)) (entry : String × Option String) {name : String}
    (other : name ≠ entry.1) :
    (entries.map fun old => if old.1 == entry.1 then entry else old).lookup name = entries.lookup name := by
  induction entries with
  | nil => rfl
  | cons old rest ih =>
      obtain ⟨key, value⟩ := old
      obtain ⟨own, new⟩ := entry
      by_cases here : key = own
      · subst here
        simp only [List.map_cons, beq_self_eq_true, if_true]
        rw [lookup_cons, lookup_cons, if_neg other, if_neg other, ih]
      · simp only [List.map_cons, beq_eq_false_iff_ne.mpr here, Bool.false_eq_true, if_false]
        rw [lookup_cons, lookup_cons, ih]

theorem lookup_putEntry (entries : List (String × Option String)) (entry : String × Option String)
    (name : String) :
    (putEntry entries entry).lookup name = if name = entry.1 then some entry.2 else entries.lookup name := by
  obtain ⟨own, new⟩ := entry
  induction entries with
  | nil => exact lookup_cons own name new []
  | cons old rest ih =>
      obtain ⟨key, value⟩ := old
      by_cases here : key = own
      · subst here
        simp only [putEntry, List.any_cons, beq_self_eq_true, Bool.true_or, if_true, List.map_cons]
        rw [lookup_cons, lookup_cons]
        by_cases found : name = key
        · rw [if_pos found, if_pos found]
        · rw [if_neg found, if_neg found, if_neg found]
          exact lookup_replaced rest (key, new) found
      · have skipped : putEntry ((key, value) :: rest) (own, new) = (key, value) :: putEntry rest (own, new) := by
          simp only [putEntry, List.any_cons, List.map_cons, beq_eq_false_iff_ne.mpr here, Bool.false_or,
            Bool.false_eq_true, if_false]
          split <;> rfl
        rw [skipped, lookup_cons, ih, lookup_cons]
        by_cases found : name = key
        · have apart : name ≠ own := fun same => here (found.symm.trans same)
          rw [if_pos found, if_neg apart, if_pos found]
        · rw [if_neg found, if_neg found]

theorem lookup_foldl_putEntry (later entries : List (String × Option String)) (name : String) :
    (later.foldl putEntry entries).lookup name =
      ((later.reverse.find? fun entry => entry.1 == name).map Prod.snd).or (entries.lookup name) := by
  induction later generalizing entries with
  | nil => simp
  | cons entry rest ih =>
      rw [List.foldl_cons, ih, lookup_putEntry, List.reverse_cons, List.find?_append]
      cases rest.reverse.find? fun entry => entry.1 == name with
      | some found => simp
      | none =>
          by_cases here : name = entry.1
          · simp [here]
          · have apart : entry.1 ≠ name := fun same => here same.symm
            simp [here, apart]

theorem layer_get? (l : Lookup) (source : Source) (entries : List (String × Option String)) (name : String)
    (all : l.skipsEmpty = false) :
    (l.layer source entries).get? name =
      ((entries.reverse.find? fun entry => l.form entry.1 == name).map Prod.snd).join := by
  rw [Layer.get?, Lookup.layer]
  simp only [all, Bool.false_and, Bool.not_false, List.filter_true]
  rw [lookup_foldl_putEntry, ← List.map_reverse, List.find?_map, Option.map_map,
    List.lookup_nil, Option.or_none]
  rfl

theorem environmentLayer_get? {l : Lookup} (env : Environment) (name : String) (all : l.skipsEmpty = false)
    (loose : l.exact = false) : (environmentLayer l env).get? (l.form name) = env.get? name := by
  rw [environmentLayer, layer_get? _ _ _ _ all, ← List.map_reverse, List.find?_map, Environment.get?]
  have same : ((fun entry : String × Option String => l.form entry.1 == l.form name) ∘
      fun entry : String × String => (entry.1, some entry.2)) = fun entry => Environment.sameName entry.1 name := by
    funext entry
    simp [Lookup.form, loose, Environment.sameName]
  rw [same]
  cases env.reverse.find? fun entry => Environment.sameName entry.1 name <;> rfl

/-! ## Groups whose fields are plain -/

variable {l : Lookup} {files : Files} {env : Environment} {mark : String} {names : List String}
  {keywords fields : Fields}

theorem layerFields_ok {layer : Layer} (said : layerFields l ⟨names, []⟩ layer = .ok fields) :
    fields = names.filterMap fun field => (plainField l layer field).map fun value => (.text field, value) := by
  unfold layerFields at said
  split at said
  · cases said
  · simp only [List.filterMapM_nil, pure_bind, List.append_nil] at said
    exact (Except.ok.inj said).symm

structure Told (l : Lookup) (files : Files) (env : Environment) (names : List String) (upper middle lower : Fields) :
    Prop where
  upper : layerFields l ⟨names, []⟩ (environmentLayer l env) = .ok upper
  middle : ∃ assigned, dotEnvLayer l files env = .ok assigned ∧ layerFields l ⟨names, []⟩ assigned = .ok middle
  lower : secretFields l ⟨names, []⟩ files = .ok lower

theorem layered_ok (said : layered files env mark ⟨names, []⟩ keywords = .ok fields) :
    ∃ l upper middle lower, Lookup.ofKeywords mark keywords = .ok l ∧ Told l files env names upper middle lower ∧
      fields = mergeFields (mergeFields (mergeFields (keywordFields ⟨names, []⟩ keywords) upper) middle) lower := by
  simp only [layered, bind_eq_ok, mapError_eq_ok] at said
  obtain ⟨l, looked, assigned, read, -, -, upper, above, middle, between, lower, below, same⟩ := said
  exact ⟨l, upper, middle, lower, looked, ⟨above, ⟨assigned, read, between⟩, below⟩, (Except.ok.inj same).symm⟩

theorem keywordFields_plain (names : List String) (keywords : Fields) :
    keywordFields ⟨names, []⟩ keywords =
      names.filterMap fun field => (keyword? keywords field).map fun value => (.text field, value) := by
  rw [keywordFields, List.append_nil]

theorem Told.get? {upper middle lower : Fields} (told : Told l files env names upper middle lower)
    (distinct : names.Nodup) (keywords : Fields) {name : String} (member : name ∈ names) :
    (mergeFields (mergeFields (mergeFields (keywordFields ⟨names, []⟩ keywords) upper) middle) lower).get? name =
      overlay (overlay (overlay (keyword? keywords name) (plainField l (environmentLayer l env) name)) (middle.get? name))
        (lower.get? name) := by
  obtain ⟨assigned, -, between⟩ := told.middle
  have above := layerFields_ok told.upper
  have keywordsDistinct : (keywordFields ⟨names, []⟩ keywords).Distinct := by
    rw [keywordFields_plain]
    exact Fields.distinct_filterMap distinct _
  have upperDistinct : upper.Distinct := above ▸ Fields.distinct_filterMap distinct _
  have middleDistinct : middle.Distinct := layerFields_ok between ▸ Fields.distinct_filterMap distinct _
  have twoDistinct := distinct_mergeFields keywordsDistinct upperDistinct
  rw [get?_mergeFields (distinct_mergeFields twoDistinct middleDistinct), get?_mergeFields twoDistinct,
    get?_mergeFields keywordsDistinct, keywordFields_plain, Fields.get?_filterMap, if_pos member, above,
    Fields.get?_filterMap, if_pos member]

/-! ## Fields -/

def Chosen {α : Type} (check : Value → Schema.Checked α) (default : α) (said : Option Value) (a : α) : Prop :=
  match said with
  | some value => check value = .valid a
  | none => a = default

theorem Chosen.unique {α : Type} {check : Value → Schema.Checked α} {default a b : α} {said : Option Value}
    (one : Chosen check default said a) (two : Chosen check default said b) : a = b := by
  cases said with
  | none => exact Eq.trans one (Eq.symm two)
  | some value => exact Schema.Checked.valid.inj (Eq.trans (Eq.symm one) two)

theorem chosen_of_withDefault {α : Type} {check : Value → Schema.Checked α} {default a : α} {name : String}
    (checked : Schema.withDefault default [name] check fields = .valid a) :
    Chosen check default (fields.get? name) a := by
  simp only [Schema.withDefault, Schema.present?] at checked
  cases said : fields.get? name with
  | none =>
      rw [said] at checked
      exact (Schema.Checked.valid.inj checked).symm
  | some value =>
      rw [said] at checked
      exact Schema.Checked.under_eq_valid.mp checked

end PluginKit.Settings
