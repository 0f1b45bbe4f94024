import PluginKit.Proofs.Json.Reading
import PluginKit.Proofs.Plugin.Shapes
import PluginKit.Proofs.Settings.Token
import PluginKit.Proofs.Yaml.Sharing

/-!
What the groups of settings depend on. A group with a section is settled by the entries of that section and by the
variables that start with the group's own mark, and by nothing else; so is the group of the server in any case. This
takes that no entry says where else to look, and that dropping the token changes no other section.
-/

namespace PluginKit

/-! ## Layers -/

namespace Settings

variable {files : Files} {env : Environment} {mark : String} {shape : Shape} {keywords fields : Fields}

theorem filterMapM_ok {α β ε : Type} {f : α → Except ε (Option β)} {xs : List α} {ys : List β}
    (run : xs.filterMapM f = .ok ys) : ∃ g, (∀ a ∈ xs, f a = .ok (g a)) ∧ ys = xs.filterMap g := by
  refine ⟨fun a => (f a).toOption.join, ?_⟩
  induction xs generalizing ys with
  | nil => exact ⟨fun _ member => (nomatch member), (Except.ok.inj run).symm⟩
  | cons a xs ih =>
      rw [List.filterMapM_cons] at run
      obtain ⟨found, first, run⟩ := bind_eq_ok.mp run
      have own : (f a).toOption.join = found := by rw [first]; rfl
      rw [List.forall_mem_cons, List.filterMap_cons, own]
      cases found with
      | none =>
          obtain ⟨each, same⟩ := ih run
          exact ⟨⟨first.trans (congrArg _ own.symm), each⟩, same⟩
      | some b =>
          obtain ⟨bs, others, last⟩ := bind_eq_ok.mp run
          obtain ⟨each, same⟩ := ih others
          cases last
          exact ⟨⟨first.trans (congrArg _ own.symm), each⟩, by rw [same]⟩

def Usual (keywords : Fields) : Prop := ∀ name ∈ lookupNames, keywords.get? name = none

theorem ofKeywords_usual (usual : Usual keywords) (mark : String) :
    Lookup.ofKeywords mark keywords = .ok { mark := some mark } := by
  simp only [Usual, lookupNames, List.forall_mem_cons] at usual
  obtain ⟨h₁, h₂, h₃, h₄, h₅, h₆, h₇, h₈, h₉, h₁₀, h₁₁, -⟩ := usual
  simp only [Lookup.ofKeywords, h₁, h₂, h₃, h₄, h₅, h₆, h₇, h₈, h₉, h₁₀, h₁₁]
  rfl

def assigned? (mark : String) (shape : Shape) (env : Environment) (field : String) : Option Value :=
  match env.get? (mark ++ field) with
  | none => none
  | some text =>
    if field ∈ shape.objects then
      match Json.parse text with
      | .ok .null => none
      | .ok value => some value
      | .error _ => none
    else some (.text text)

def said (mark : String) (shape : Shape) (keywords : Fields) (env : Environment) (field : String) : Option Value :=
  match keyword? keywords field, assigned? mark shape env field with
  | some (.object own), some (.object others) => some (.object (mergeFields own others))
  | some value, _ => some value
  | none, other => other

theorem said_eq_overlay (field : String) :
    said mark shape keywords env field = overlay (keyword? keywords field) (assigned? mark shape env field) := by
  unfold said
  cases keyword? keywords field with
  | none => rfl
  | some upper =>
      cases assigned? mark shape env field with
      | none => cases upper <;> rfl
      | some lower => cases upper <;> cases lower <;> rfl

theorem readJson_ok {field text : String} {source : Source} {value : Value}
    (run : readJson field source text = .ok value) : Json.parse text = .ok value := by
  unfold readJson at run
  split at run
  · rename_i found
    rw [found, Except.ok.inj run]
  · split at run <;> cases run

theorem objectField_usual {layer : Layer} {field : String} {found : Option Value}
    (run : objectField { mark := some mark } layer field = .ok found) :
    found = match layer.get? (Environment.lowerName (mark ++ field)) with
      | none => none
      | some text => match Json.parse text with
        | .ok .null => none
        | .ok value => some value
        | .error _ => none := by
  have name : Lookup.name { mark := some mark } field = Environment.lowerName (mark ++ field) := rfl
  simp only [objectField, name] at run
  cases held : layer.get? (Environment.lowerName (mark ++ field)) with
  | none =>
      rw [held] at run
      cases run
      rfl
  | some text =>
      rw [held] at run
      simp only [reduceCtorEq, if_false] at run
      obtain ⟨value, read, run⟩ := bind_eq_ok.mp run
      dsimp only
      rw [readJson_ok read]
      cases value <;> cases run <;> rfl

theorem layerFields_usual {upper : Fields} (apart : ∀ field ∈ shape.plain, field ∉ shape.objects)
    (run : layerFields { mark := some mark } shape (environmentLayer { mark := some mark } env) = .ok upper) :
    upper = (shape.plain ++ shape.objects).filterMap fun field =>
      (assigned? mark shape env field).map fun value => (.text field, value) := by
  have held : ∀ field, (environmentLayer { mark := some mark } env).get? (Environment.lowerName (mark ++ field)) =
      env.get? (mark ++ field) := fun field => environmentLayer_get? env _ rfl rfl
  unfold layerFields at run
  simp only [Option.isNone_some, Bool.false_eq_true, if_false] at run
  obtain ⟨objects, found, same⟩ := bind_eq_ok.mp run
  obtain ⟨g, each, rfl⟩ := filterMapM_ok found
  cases same
  rw [List.filterMap_append]
  congr 1
  · refine List.filterMap_congr fun field member => ?_
    have plain : plainField { mark := some mark } (environmentLayer { mark := some mark } env) field =
        ((environmentLayer { mark := some mark } env).get? (Environment.lowerName (mark ++ field))).map .text := rfl
    rw [plain, held, assigned?]
    cases env.get? (mark ++ field) <;> simp [apart field member]
  · refine List.filterMap_congr fun field member => ?_
    obtain ⟨value, object, made⟩ := bind_eq_ok.mp (each field member)
    rw [← Except.ok.inj made, objectField_usual object, held, assigned?]
    cases env.get? (mark ++ field) <;> simp [member]

theorem overlay_none (upper : Option Value) : overlay upper none = upper := by
  cases upper <;> rfl

theorem layerFields_nothing {middle : Fields}
    (run : layerFields { mark := some mark } shape ⟨.dotEnv, []⟩ = .ok middle) : middle = [] := by
  unfold layerFields at run
  simp only [Option.isNone_some, Bool.false_eq_true, if_false] at run
  obtain ⟨objects, found, same⟩ := bind_eq_ok.mp run
  obtain ⟨g, each, rfl⟩ := filterMapM_ok found
  cases same
  rw [List.append_eq_nil_iff, List.filterMap_eq_nil_iff, List.filterMap_eq_nil_iff]
  refine ⟨fun field _ => rfl, fun field member => ?_⟩
  obtain ⟨value, object, made⟩ := bind_eq_ok.mp (each field member)
  rw [← Except.ok.inj made, objectField_usual object]
  rfl

theorem secretFields_nothing {lower : Fields} (run : secretFields { mark := some mark } shape files = .ok lower) :
    lower = [] := by
  unfold secretFields at run
  obtain ⟨directories, absent, run⟩ := bind_eq_ok.mp run
  cases absent
  obtain ⟨plain, found, run⟩ := bind_eq_ok.mp run
  obtain ⟨objects, found', same⟩ := bind_eq_ok.mp run
  obtain ⟨g, each, rfl⟩ := filterMapM_ok found
  obtain ⟨g', each', rfl⟩ := filterMapM_ok found'
  cases same
  rw [List.append_eq_nil_iff, List.filterMap_eq_nil_iff, List.filterMap_eq_nil_iff]
  exact ⟨fun field member => (Except.ok.inj (each field member)).symm,
    fun field member => (Except.ok.inj (each' field member)).symm⟩

theorem layered_usual (usual : Usual keywords) (distinct : (shape.plain ++ shape.objects).Nodup)
    (run : layered files env mark shape keywords = .ok fields) {name : String}
    (member : name ∈ shape.plain ++ shape.objects) :
    fields.get? name = said mark shape keywords env name := by
  simp only [layered, ofKeywords_usual usual, bind_eq_ok, mapError_eq_ok] at run
  obtain ⟨l, looked, assigned, read, -, -, upper, above, middle, between, lower, below, same⟩ := run
  cases looked
  cases read
  have apart := (List.nodup_append.mp distinct).2.2
  have told := layerFields_usual (fun field plain object => apart _ plain _ object rfl) above
  obtain rfl := layerFields_nothing between
  obtain rfl := secretFields_nothing below
  obtain rfl := (Except.ok.inj same).symm
  have own : (keywordFields shape keywords).Distinct := Fields.distinct_filterMap distinct _
  have two : (mergeFields (keywordFields shape keywords) upper).Distinct :=
    distinct_mergeFields own (told ▸ Fields.distinct_filterMap distinct _)
  have empty : Fields.get? [] name = none := rfl
  simp only [List.foldl_cons, List.foldl_nil]
  rw [get?_mergeFields (distinct_mergeFields two Fields.distinct_nil), get?_mergeFields two, get?_mergeFields own,
    empty, overlay_none, overlay_none, told, keywordFields, Fields.get?_filterMap, Fields.get?_filterMap, if_pos member,
    if_pos member, said_eq_overlay]

end Settings

/-! ## Groups -/

open Settings

structure PluginSettings.From (said : String → Option Value) (g : PluginSettings) : Prop where
  wasmPath : Chosen Schema.path (Path.ofString "./plugin.wasm") (said "wasm_path") g.wasmPath

structure FormatSettings.From (said : String → Option Value) (g : FormatSettings) : Prop where
  lineWidth : Chosen (Schema.optional Schema.int) none (said "line_width") g.lineWidth
  indentWidth : Chosen (Schema.optional Schema.int) none (said "indent_width") g.indentWidth
  useTabs : Chosen (Schema.optional Schema.flag) none (said "use_tabs") g.useTabs
  newLineKind : Chosen (Schema.optional Schema.text) none (said "new_line_kind") g.newLineKind
  pluginConfig : Chosen Schema.mapping [] (said "plugin_config") g.pluginConfig

structure GitHubSettings.From (said : String → Option Value) (g : GitHubSettings) : Prop where
  apiUrl : Chosen Schema.text "https://api.github.com" (said "api_url") g.apiUrl
  repo : Chosen Schema.text "dprint/dprint-plugin-json" (said "repo") g.repo
  branch : Chosen Schema.text "main" (said "branch") g.branch
  token : Chosen Schema.text "" (said "token") g.token
  timeout : Chosen Schema.float (Binary64.ofInt 30) (said "timeout") g.timeout

structure ReleaseSettings.From (said : String → Option Value) (g : ReleaseSettings) : Prop where
  pluginUrlBase : Chosen Schema.text "https://plugins.dprint.dev" (said "plugin_url_base") g.pluginUrlBase
  pluginName : Chosen Schema.text "json" (said "plugin_name") g.pluginName
  configKey : Chosen Schema.text "json" (said "config_key") g.configKey
  npmPackage : Chosen Schema.text "@dprint/json" (said "npm_package") g.npmPackage

variable {files : Files} {env : Environment} {keywords : Fields}

theorem PluginSettings.ofLayers_ok {g : PluginSettings} (built : ofLayers files env keywords = .ok g) :
    ∃ fields, layered files env "PLUGIN_" shape keywords = .ok fields ∧ From fields.get? g := by
  obtain ⟨fields, told, checked⟩ := bind_eq_ok.mp built
  simp only [ofChecked_eq_ok, Schema.Checked.map_eq_valid] at checked
  obtain ⟨path, one, rfl⟩ := checked
  exact ⟨fields, told, ⟨chosen_of_withDefault one⟩⟩

theorem FormatSettings.ofLayers_ok {g : FormatSettings} (built : ofLayers files env keywords = .ok g) :
    ∃ fields, layered files env "FORMAT_" shape keywords = .ok fields ∧ From fields.get? g := by
  obtain ⟨fields, told, checked⟩ := bind_eq_ok.mp built
  simp only [ofChecked_eq_ok, Schema.Checked.seq_eq_valid, Schema.Checked.map_eq_valid] at checked
  obtain ⟨_, ⟨_, ⟨_, ⟨_, ⟨_, one, rfl⟩, _, two, rfl⟩, _, three, rfl⟩, _, four, rfl⟩, _, five, rfl⟩ := checked
  exact ⟨fields, told, ⟨chosen_of_withDefault one, chosen_of_withDefault two, chosen_of_withDefault three,
    chosen_of_withDefault four, chosen_of_withDefault five⟩⟩

theorem GitHubSettings.ofLayers_ok {g : GitHubSettings} (built : ofLayers files env keywords = .ok g) :
    ∃ fields, layered files env "GITHUB_" shape keywords = .ok fields ∧ From fields.get? g := by
  obtain ⟨fields, told, checked⟩ := bind_eq_ok.mp built
  simp only [ofChecked_eq_ok, Schema.Checked.seq_eq_valid, Schema.Checked.map_eq_valid] at checked
  obtain ⟨_, ⟨_, ⟨_, ⟨_, ⟨_, one, rfl⟩, _, two, rfl⟩, _, three, rfl⟩, _, four, rfl⟩, _, five, rfl⟩ := checked
  exact ⟨fields, told, ⟨chosen_of_withDefault one, chosen_of_withDefault two, chosen_of_withDefault three,
    chosen_of_withDefault four, chosen_of_withDefault five⟩⟩

theorem ReleaseSettings.ofLayers_ok {g : ReleaseSettings} (built : ofLayers files env keywords = .ok g) :
    ∃ fields, layered files env "RELEASE_" shape keywords = .ok fields ∧ From fields.get? g := by
  obtain ⟨fields, told, checked⟩ := bind_eq_ok.mp built
  simp only [ofChecked_eq_ok, Schema.Checked.seq_eq_valid, Schema.Checked.map_eq_valid] at checked
  obtain ⟨_, ⟨_, ⟨_, ⟨_, one, rfl⟩, _, two, rfl⟩, _, three, rfl⟩, _, four, rfl⟩ := checked
  exact ⟨fields, told, ⟨chosen_of_withDefault one, chosen_of_withDefault two, chosen_of_withDefault three,
    chosen_of_withDefault four⟩⟩

namespace Settings

namespace Section

def Group : Section → Type
  | .plugin => PluginSettings
  | .format => FormatSettings
  | .github => GitHubSettings
  | .release => ReleaseSettings

def mark : Section → String
  | .plugin => "PLUGIN_"
  | .format => "FORMAT_"
  | .github => "GITHUB_"
  | .release => "RELEASE_"

def fields (place : Section) : List String := place.shape.plain ++ place.shape.objects

def build : (place : Section) → Files → Environment → Fields → Except GroupError place.Group
  | .plugin => PluginSettings.ofLayers
  | .format => FormatSettings.ofLayers
  | .github => GitHubSettings.ofLayers
  | .release => ReleaseSettings.ofLayers

def From : (place : Section) → (String → Option Value) → place.Group → Prop
  | .plugin => PluginSettings.From
  | .format => FormatSettings.From
  | .github => GitHubSettings.From
  | .release => ReleaseSettings.From

theorem build_ok {place : Section} {g : place.Group} (built : place.build files env keywords = .ok g) :
    ∃ fields, layered files env place.mark place.shape keywords = .ok fields ∧ place.From fields.get? g := by
  cases place with
  | plugin => exact PluginSettings.ofLayers_ok built
  | format => exact FormatSettings.ofLayers_ok built
  | github => exact GitHubSettings.ofLayers_ok built
  | release => exact ReleaseSettings.ofLayers_ok built

variable {place : Section} {said said' : String → Option Value} {g g' : place.Group}

theorem From.congr (holds : place.From said g) (same : ∀ name ∈ place.fields, said name = said' name) :
    place.From said' g := by
  cases place with
  | plugin =>
      obtain ⟨one⟩ := holds
      exact ⟨same "wasm_path" (by decide) ▸ one⟩
  | format =>
      obtain ⟨one, two, three, four, five⟩ := holds
      exact ⟨same "line_width" (by decide) ▸ one, same "indent_width" (by decide) ▸ two,
        same "use_tabs" (by decide) ▸ three, same "new_line_kind" (by decide) ▸ four,
        same "plugin_config" (by decide) ▸ five⟩
  | github =>
      obtain ⟨one, two, three, four, five⟩ := holds
      exact ⟨same "api_url" (by decide) ▸ one, same "repo" (by decide) ▸ two, same "branch" (by decide) ▸ three,
        same "token" (by decide) ▸ four, same "timeout" (by decide) ▸ five⟩
  | release =>
      obtain ⟨one, two, three, four⟩ := holds
      exact ⟨same "plugin_url_base" (by decide) ▸ one, same "plugin_name" (by decide) ▸ two,
        same "config_key" (by decide) ▸ three, same "npm_package" (by decide) ▸ four⟩

theorem From.unique (one : place.From said g) (two : place.From said g') : g = g' := by
  cases place with
  | plugin =>
      refine (PluginSettings.mk.injEq ..).mpr ?_
      exact one.wasmPath.unique two.wasmPath
  | format =>
      refine (FormatSettings.mk.injEq ..).mpr ?_
      exact ⟨one.lineWidth.unique two.lineWidth, one.indentWidth.unique two.indentWidth,
        one.useTabs.unique two.useTabs, one.newLineKind.unique two.newLineKind,
        one.pluginConfig.unique two.pluginConfig⟩
  | github =>
      refine (GitHubSettings.mk.injEq ..).mpr ?_
      exact ⟨one.apiUrl.unique two.apiUrl, one.repo.unique two.repo, one.branch.unique two.branch,
        one.token.unique two.token, one.timeout.unique two.timeout⟩
  | release =>
      refine (ReleaseSettings.mk.injEq ..).mpr ?_
      exact ⟨one.pluginUrlBase.unique two.pluginUrlBase, one.pluginName.unique two.pluginName,
        one.configKey.unique two.configKey, one.npmPackage.unique two.npmPackage⟩

end Section

/-! ## Loading -/

open Activity

def group (s : Settings) : (place : Section) → place.Group
  | .plugin => s.plugin
  | .format => s.format
  | .github => s.github
  | .release => s.release

def Given.group? (given : Given) : (place : Section) → Option place.Group
  | .plugin => given.plugin
  | .format => given.format
  | .github => some given.github
  | .release => given.release

def entries? (document : Value) (place : Section) : Option Fields :=
  match document with
  | .object sections => match Fields.get? sections place.name with
    | some (.object entries) => some entries
    | _ => none
  | _ => none

def keywordsIn (document : Value) : Section → Option Fields
  | .github => some (Fields.erase (serverSection document) "token")
  | place => entries? document place

theorem entries?_ok {document : Value} {place : Section} {entries : Fields}
    (held : entries? document place = some entries) :
    ∃ sections, document = .object sections ∧ Fields.get? sections place.name = some (.object entries) := by
  unfold entries? at held
  split at held
  · split at held
    · rename_i found
      cases held
      exact ⟨_, rfl, found⟩
    · cases held
  · cases held

theorem keywordsOf_ok {place : Section} {entries : Fields} (run : keywordsOf place (.object entries) = .ok keywords) :
    keywords = entries := by
  rw [keywordsOf] at run
  split at run
  · exact (Except.ok.inj run).symm
  · cases run

theorem group?_ok {α : Type} {document : Value} {place : Section} {build : Fields → Except GroupError α}
    {given : Option α} {log log' : List Log.Record} (run : Settings.group? document place build log = (.ok given, log'))
    (held : entries? document place = some keywords) : ∃ g, given = some g ∧ build keywords = .ok g := by
  obtain ⟨sections, rfl, entered⟩ := entries?_ok held
  obtain ⟨found, log₁, looked, run⟩ := bind_fst_ok (congrArg Prod.fst run)
  cases found with
  | none => cases entered.symm.trans (sectionOf?_ok looked sections rfl)
  | some entry =>
      obtain ⟨_, same, found⟩ := sectionOf?_ok looked
      cases same
      cases entered.symm.trans found
      obtain ⟨_, log₂, kept, run⟩ := bind_fst_ok run
      obtain ⟨g, log₃, built, run⟩ := bind_fst_ok run
      cases run
      rw [keywordsOf_ok (orFail_ok kept)] at built
      exact ⟨g, rfl, ofGroup_ok built⟩

theorem ofDocument_group {document : Value} {given : Given} {place : Section} {log : List Log.Record}
    (ok : (ofDocument files env document log).1 = .ok given) (held : keywordsIn document place = some keywords) :
    ∃ g, given.group? place = some g ∧ place.build files env keywords = .ok g := by
  by_cases server : place = .github
  · subst server
    cases held
    exact ⟨_, rfl, ofDocument_github ok⟩
  have entered : entries? document place = some keywords := by
    cases place <;> first | exact held | exact absurd rfl server
  obtain ⟨sections, rfl, found⟩ := entries?_ok entered
  have full : (Value.object sections).isVoid = false := by
    cases sections with
    | nil => cases found
    | cons => rfl
  unfold ofDocument at ok
  rw [full] at ok
  obtain ⟨plugin, log₁, first, ok⟩ := bind_fst_ok ok
  obtain ⟨format, log₂, second, ok⟩ := bind_fst_ok ok
  obtain ⟨release, log₃, third, ok⟩ := bind_fst_ok ok
  obtain ⟨found, log₄, -, ok⟩ := bind_fst_ok ok
  have parts : given.plugin = plugin ∧ given.format = format ∧ given.release = release := by
    cases found with
    | none =>
        obtain ⟨_, _, made, ok⟩ := bind_fst_ok ok
        cases made
        obtain ⟨debug, _, -, ok⟩ := bind_fst_ok ok
        obtain ⟨github, _, -, ok⟩ := bind_fst_ok ok
        cases ok
        exact ⟨rfl, rfl, rfl⟩
    | some entry =>
        obtain ⟨entry', _, -, ok⟩ := bind_fst_ok ok
        obtain ⟨keywords, _, -, ok⟩ := bind_fst_ok ok
        obtain ⟨github, _, -, ok⟩ := bind_fst_ok ok
        obtain ⟨_, _, made, ok⟩ := bind_fst_ok ok
        cases made
        obtain ⟨debug, _, -, ok⟩ := bind_fst_ok ok
        cases ok
        exact ⟨rfl, rfl, rfl⟩
  obtain ⟨rfl, rfl, rfl⟩ := parts
  cases place with
  | plugin => exact group?_ok first entered
  | format => exact group?_ok second entered
  | github => exact absurd rfl server
  | release => exact group?_ok third entered

theorem ofGiven_group {given : Given} {s : Settings} {place : Section} {g : place.Group}
    (settled : ofGiven files env given = .ok s) (held : given.group? place = some g) : s.group place = g := by
  unfold ofGiven at settled
  simp only [bind_eq_ok] at settled
  obtain ⟨lower, -, upperSections, -, lowerSections, -, plugin, first, format, second, release, third, checked⟩ :=
    settled
  simp only [ofChecked_eq_ok, Schema.Checked.seq_eq_valid, Schema.Checked.map_eq_valid] at checked
  obtain ⟨_, ⟨_, ⟨_, ⟨_, ⟨plugin, rfl, rfl⟩, format, rfl, rfl⟩, github, same, rfl⟩, release, rfl, rfl⟩, debug, -, rfl⟩
    := checked
  cases same
  cases place with
  | plugin =>
      rw [show given.plugin = some g from held] at first
      exact (Schema.Checked.valid.inj (Except.ok.inj first)).symm
  | format =>
      rw [show given.format = some g from held] at second
      exact (Schema.Checked.valid.inj (Except.ok.inj second)).symm
  | github => exact Option.some.inj held
  | release =>
      rw [show given.release = some g from held] at third
      exact (Schema.Checked.valid.inj (Except.ok.inj third)).symm

theorem load_group {path : Option Path} {s : Settings} {log : List Log.Record} {document : Value} {place : Section}
    (loaded : (load files env path log).1 = .ok s) (read : documentOf files (path.getD defaultPath) = .ok document)
    (held : keywordsIn document place = some keywords) : place.build files env keywords = .ok (s.group place) := by
  unfold load at loaded
  obtain ⟨document', log₁, found, loaded⟩ := bind_fst_ok loaded
  obtain ⟨given, log₂, gave, settled⟩ := bind_fst_ok loaded
  cases (Prod.mk.inj found).1.symm.trans read
  obtain ⟨g, given_g, built⟩ := ofDocument_group (by rw [gave]) held
  rw [ofGiven_group (ofGroup_ok (Prod.ext settled rfl)) given_g]
  exact built

/-- Dropping the token of the server's section changes no other section: the section has none, or only the root is made
of it. No node is inside of itself. -/
structure Unshared (d : Yaml.Document) : Prop where
  grounded : ∀ root, d.root = some root → Acc (Yaml.Inside d.built) root
  apart : ∀ root server, d.root = some root → d.field? "github" root = some server → d.field? "token" server = none ∨
    ∀ id, Relation.TransGen (Yaml.Inside d.built) id root → ¬ Yaml.Inside d.built server id

theorem keptValue_eq {d : Yaml.Document} (unshared : Unshared d) : keptValue d = d.value := by
  cases rooted : d.root with
  | none => rw [keptValue, Yaml.Document.value, rooted]; rfl
  | some root =>
      have grounded := unshared.grounded root rooted
      have whole : d.value = d.valueOf root := by rw [Yaml.Document.value, rooted]; rfl
      cases found : d.field? "github" root with
      | none =>
          have kept : keptValue d = d.copied d 3 root := by simp only [keptValue, rooted, Section.name, found]
          rw [kept, whole]
          exact Yaml.Document.copied_of_agree Yaml.agree_self grounded trivial .root
      | some server =>
          have kept : keptValue d = d.copied (d.erase "token" server) 3 root := by
            simp only [keptValue, rooted, Section.name, found]
          rw [kept, whole]
          rcases unshared.apart root server rooted found with absent | only
          · exact Yaml.Document.copied_erase_of_absent grounded absent
          · cases held : d.object? root with
            | none => simp [Yaml.Document.field?, held] at found
            | some fields => exact Yaml.Document.copied_erase grounded held only

def Written (files : Files) (path : Path) (place : Section) (keywords : Fields) : Prop :=
  (files.has path = .ok false ∧ keywordsIn .null place = some keywords) ∨
    ∃ data document, files.has path = .ok true ∧ files.read path = .ok data ∧ Yaml.parse data = .ok document ∧
      Unshared document ∧ keywordsIn document.value place = some keywords

theorem Written.read {path : Path} {place : Section} (written : Written files path place keywords) :
    ∃ document, documentOf files path = .ok document ∧ keywordsIn document place = some keywords := by
  rcases written with ⟨absent, held⟩ | ⟨data, document, present, read, parsed, unshared, held⟩
  · exact ⟨.null, bind_eq_ok.mpr ⟨false, by rw [absent]; rfl, rfl⟩, held⟩
  · refine ⟨document.value, bind_eq_ok.mpr ⟨true, by rw [present]; rfl, ?_⟩, held⟩
    refine bind_eq_ok.mpr ⟨data, by rw [read]; rfl, bind_eq_ok.mpr ⟨document, by rw [parsed]; rfl, ?_⟩⟩
    rw [keptValue_eq unshared]
    rfl

/-! ## What a group depends on -/

variable {path : Option Path} {place : Section} {s : Settings} {log : List Log.Record}

theorem load_from (written : Written files (path.getD defaultPath) place keywords) (usual : Usual keywords)
    (loaded : (load files env path log).1 = .ok s) :
    place.From (said place.mark place.shape keywords env) (s.group place) := by
  obtain ⟨document, read, held⟩ := written.read
  obtain ⟨fields, told, settled⟩ := Section.build_ok (load_group loaded read held)
  have distinct : place.fields.Nodup := by cases place <;> decide
  exact settled.congr fun name member => layered_usual usual distinct told member

theorem said_congr {env' : Environment} {keywords' : Fields} {field : String}
    (named : keyword? keywords' field = keyword? keywords field)
    (set : env'.get? (mark ++ field) = env.get? (mark ++ field)) :
    said mark shape keywords' env' field = said mark shape keywords env field := by
  rw [said, said, assigned?, assigned?, named, set]

theorem pluginConfig_merged {g : FormatSettings} (settled : g.From (said mark shape keywords env)) {own others : Fields}
    (entry : keyword? keywords "plugin_config" = some (.object own)) (distinct : own.Distinct)
    (set : assigned? mark shape env "plugin_config" = some (.object others)) (name : String) :
    g.pluginConfig.get? name = overlay (own.get? name) (others.get? name) := by
  have parsed : others.Distinct := by
    unfold assigned? at set
    repeat' split at set
    all_goals first | cases set; exact Json.parse_distinct ‹_› | cases set
  have merged : said mark shape keywords env "plugin_config" = some (.object (mergeFields own others)) := by
    rw [said, entry, set]
  have checked := settled.pluginConfig
  rw [merged] at checked
  rw [← Schema.Checked.valid.inj ((Schema.mapping_distinct (distinct_mergeFields distinct parsed)).symm.trans checked)]
  exact get?_mergeFields distinct others name

/-! ## Short configurations -/

mutual

def alike : Value → Value → Bool
  | .flag a, .flag b => a == b
  | .int a, .int b => a == b
  | .text a, .text b => a == b
  | .object fields, .object fields' => alikeFields fields fields'
  | _, _ => false

def alikeFields : List (Key × Value) → List (Key × Value) → Bool
  | [], [] => true
  | (.text name, value) :: rest, (.text name', value') :: rest' =>
    name == name' && alike value value' && alikeFields rest rest'
  | _, _ => false

end

mutual

theorem eq_of_alike : ∀ {a b : Value}, alike a b = true → a = b
  | .flag _, .flag _, same => by rw [alike, beq_iff_eq] at same; rw [same]
  | .int _, .int _, same => by rw [alike, beq_iff_eq] at same; rw [same]
  | .text _, .text _, same => by rw [alike, beq_iff_eq] at same; rw [same]
  | .object _, .object _, same => by rw [alike] at same; rw [eq_of_alikeFields same]

theorem eq_of_alikeFields : ∀ {fields fields' : List (Key × Value)},
    alikeFields fields fields' = true → fields = fields'
  | [], [], _ => rfl
  | (.text _, _) :: _, (.text _, _) :: _, same => by
    simp only [alikeFields, Bool.and_eq_true, beq_iff_eq] at same
    rw [same.1.1, eq_of_alike same.1.2, eq_of_alikeFields same.2]

end

theorem eq_some_of_alike {found : Option Value} {value : Value} (same : found.any (alike · value) = true) :
    found = some value := by
  cases found with
  | none => cases same
  | some v => rw [eq_of_alike same]

def Reads (text : String) (whole kept : Value) : Prop :=
  ∃ document, Yaml.parse (Utf8.bytes text) = .ok document ∧ document.value = whole ∧ keptValue document = kept

def readsAs (whole kept : Value) : Except Yaml.Error Yaml.Document → Bool
  | .ok document => alike document.value whole && alike (keptValue document) kept
  | .error _ => false

theorem reads_of_readsAs {text : String} {whole kept : Value}
    (checked : readsAs whole kept (Yaml.parse (Utf8.bytes text)) = true) : Reads text whole kept := by
  cases parsed : Yaml.parse (Utf8.bytes text) with
  | error e =>
      rw [parsed] at checked
      cases checked
  | ok document =>
      rw [parsed] at checked
      obtain ⟨one, two⟩ := Bool.and_eq_true_iff.mp checked
      exact ⟨document, parsed, eq_of_alike one, eq_of_alike two⟩

def ReadsWhole (text : String) (whole : Value) : Prop :=
  ∃ document, Yaml.parse (Utf8.bytes text) = .ok document ∧ Unshared document ∧ document.value = whole

def isAscending (built : Array (Option Yaml.Built)) : Bool :=
  (List.range built.size).all fun id => (Yaml.partsOf built id).all (id < ·)

def readsWhole (whole : Value) : Except Yaml.Error Yaml.Document → Bool
  | .ok document => isAscending document.built &&
      ((document.root.bind (document.field? "github")).bind (document.field? "token")).isNone &&
      alike document.value whole
  | .error _ => false

theorem grounded_of_isAscending {built : Array (Option Yaml.Built)} (ascending : isAscending built = true) (id : Nat) :
    Acc (Yaml.Inside built) id := by
  have above : ∀ part id, Yaml.Inside built part id → id < part ∧ id < built.size := by
    intro part id inside
    have present := Yaml.lt_size_of_inside inside
    have parts := List.all_eq_true.mp ascending id (List.mem_range.mpr present)
    exact ⟨of_decide_eq_true (List.all_eq_true.mp parts part inside), present⟩
  induction left : built.size - id using Nat.strong_induction_on generalizing id with
  | _ n ih =>
      refine Acc.intro id fun part inside => ih _ ?_ part rfl
      have := above part id inside
      omega

theorem readsWhole_of_check {text : String} {whole : Value}
    (checked : readsWhole whole (Yaml.parse (Utf8.bytes text)) = true) : ReadsWhole text whole := by
  cases parsed : Yaml.parse (Utf8.bytes text) with
  | error e =>
      rw [parsed] at checked
      cases checked
  | ok document =>
      rw [parsed] at checked
      simp only [readsWhole, Bool.and_eq_true, Option.isNone_iff_eq_none] at checked
      obtain ⟨⟨ascending, absent⟩, same⟩ := checked
      refine ⟨document, parsed, ⟨fun root _ => grounded_of_isAscending ascending root, ?_⟩, eq_of_alike same⟩
      intro root server rooted found
      rw [rooted, Option.bind_some, found, Option.bind_some] at absent
      exact .inl absent

def folder (text assignments : String) : Files :=
  ⟨["desk"], [(["desk", "config.yaml"], .file (Utf8.bytes text)), (["desk", ".env"], .file (Utf8.bytes assignments))],
    false⟩

theorem defaultPath_eq : defaultPath = ⟨"", ["config.yaml"]⟩ := by decide +kernel

theorem ReadsWhole.written {text : String} {whole : Value} (reads : ReadsWhole text whole)
    (held : keywordsIn whole place = some keywords) (assignments : String) :
    Written (folder text assignments) (Option.getD none defaultPath) place keywords := by
  obtain ⟨document, parsed, unshared, rfl⟩ := reads
  rw [Option.getD_none, defaultPath_eq]
  exact .inr ⟨_, document, rfl, rfl, parsed, unshared, held⟩

theorem Reads.documentOf {text assignments : String} {whole kept : Value} (reads : Reads text whole kept) :
    documentOf (folder text assignments) defaultPath = .ok kept := by
  obtain ⟨document, parsed, -, rfl⟩ := reads
  have found : Settings.documentOf (folder text assignments) ⟨"", ["config.yaml"]⟩ =
      ((Yaml.parse (Utf8.bytes text)).mapError .unreadable).map keptValue := rfl
  rw [defaultPath_eq, found, parsed]
  rfl

theorem ReadsWhole.reads {text : String} {whole : Value} (reads : ReadsWhole text whole) : Reads text whole whole := by
  obtain ⟨document, parsed, unshared, rfl⟩ := reads
  exact ⟨document, parsed, rfl, keptValue_eq unshared⟩

theorem dotEnvLayer_folder {text assignments : String} (unmarked : assignments.contains Text.standInMark = false)
    (lines : Text.universalNewlines assignments.toList = assignments.toList) :
    dotEnvLayer ownLookup (folder text assignments) env =
      .ok (ownLookup.layer .dotEnv (DotEnv.parse env assignments)) := by
  have place : Path.ofString dotEnvPath.text = ⟨"", [".env"]⟩ := by decide +kernel
  have paths : pathsOf ownLookup.envFiles = .ok [.ok ⟨"", [".env"]⟩] := by
    rw [← place]
    rfl
  have read : readText (folder text assignments) .utf8 ⟨"", [".env"]⟩ = .ok assignments := by
    have data : (folder text assignments).read ⟨"", [".env"]⟩ = .ok (Utf8.bytes assignments) := rfl
    have decoded : Text.Codec.decode .utf8 (Utf8.bytes assignments) = .ok assignments := by
      rw [Text.Codec.decode, Utf8.decode_bytes, Text.held_of_unmarked unmarked]
      rfl
    refine bind_eq_ok.mpr ⟨_, by rw [data]; rfl, bind_eq_ok.mpr ⟨_, by rw [decoded]; rfl, ?_⟩⟩
    rw [lines, String.ofList_toList]
    rfl
  have found : assignmentsOf ownLookup (folder text assignments) env ⟨"", [".env"]⟩ =
      .ok (DotEnv.parse env assignments) :=
    bind_eq_ok.mpr ⟨true, rfl, bind_eq_ok.mpr ⟨.utf8, rfl, bind_eq_ok.mpr ⟨_, read, rfl⟩⟩⟩
  refine bind_eq_ok.mpr ⟨_, by rw [paths]; rfl, bind_eq_ok.mpr ⟨[DotEnv.parse env assignments], ?_, ?_⟩⟩
  · rw [List.mapM_cons, List.mapM_nil]
    exact bind_eq_ok.mpr ⟨_, bind_eq_ok.mpr ⟨_, rfl, found⟩, rfl⟩
  · rw [List.flatten_singleton]
    rfl

def formatEntries : Fields := [(.text "plugin_config", .object [(.text "a", .int 1)])]

def formatText : String := "format:\n  plugin_config:\n    a: 1\n"

def formatDocument : Value := .object [(.text "format", .object formatEntries)]

def longText : String := formatText ++ "github:\n  repo: other\n"

def longDocument : Value :=
  .object [(.text "format", .object formatEntries), (.text "github", .object [(.text "repo", .text "other")])]

def markedText : String := "github:\n  _env_prefix: OTHER_\n"

def markedDocument : Value := .object [(.text "github", .object [(.text "_env_prefix", .text "OTHER_")])]

def sharedText : String := "format:\n  plugin_config:\n    deep: &x\n      token: 1\n      a: 2\ngithub: *x\n"

def sharedDocument (deep : Fields) : Value :=
  .object [(.text "format", .object [(.text "plugin_config", .object [(.text "deep", .object deep)])]),
    (.text "github", .object [(.text "token", .int 1), (.text "a", .int 2)])]

theorem texts_read : ReadsWhole formatText formatDocument ∧ ReadsWhole longText longDocument ∧
    Reads markedText markedDocument markedDocument ∧
    Reads sharedText (sharedDocument [(.text "token", .int 1), (.text "a", .int 2)])
      (sharedDocument [(.text "a", .int 2)]) := by
  have stream : ∀ text ∈ [formatText, longText, markedText, sharedText],
      Text.Stream.ofBytes (Utf8.bytes text) = ⟨text.toList, none⟩ := by
    intro text member
    simp only [List.mem_cons, List.not_mem_nil, or_false] at member
    rcases member with rfl | rfl | rfl | rfl
    all_goals
      refine stream_ofBytes ?_ ?_ ?_ (by rw [String.contains_char_eq]; decide +kernel) ?_ ?_
      all_goals decide +kernel
  refine ⟨readsWhole_of_check ?_, readsWhole_of_check ?_, reads_of_readsAs ?_, reads_of_readsAs ?_⟩
  all_goals
    rw [Yaml.parse, stream _ (by simp)]
    decide +kernel

def fewVariables : Environment :=
  [("FORMAT_NEW_LINE_KIND", "lf"), ("FORMAT_PLUGIN_CONFIG", "\x7b\"a\": 2, \"b\": 3\x7d")]

def moreVariables : Environment := fewVariables ++ [("RELEASE_PLUGIN_NAME", "other"), ("GITHUB", "\x7b\x7d")]

theorem texts_load :
    (load (folder formatText "") fewVariables none []).1.toOption.map (·.debug) = some false ∧
    (load (folder longText "FORMAT_USE_TABS=true\n") moreVariables none []).1.toOption.map (·.debug) = some false ∧
    (load (folder markedText "") [("OTHER_REPO", "other/repo")] none []).1.toOption.map (·.github.repo) =
      some "other/repo" ∧
    (load (folder sharedText "") [] none []).1.toOption.map (fun s => alikeFields s.format.pluginConfig
      [(.text "deep", .object [(.text "a", .int 2)])]) = some true := by
  obtain ⟨one, two, three, four⟩ := texts_read
  refine ⟨?_, ?_, ?_, ?_⟩
  all_goals
    simp only [load, Option.getD_none, one.reads.documentOf, two.reads.documentOf, three.documentOf, four.documentOf,
      ofGiven]
    rw [dotEnvLayer_folder (by rw [String.contains_char_eq]; decide +kernel) (by decide +kernel)]
    decide +kernel

theorem exists_of_map {ε α β : Type} {x : Except ε α} {f : α → β} {b : β} (found : x.toOption.map f = some b) :
    ∃ a, x = .ok a ∧ f a = b := by
  cases x with
  | error e => cases found
  | ok a => exact ⟨a, rfl, Option.some.inj found⟩

theorem formatEntries_usual : Usual formatEntries := by
  have absent : lookupNames.all (fun name => (formatEntries.get? name).isNone) = true := by decide
  intro name member
  exact Option.isNone_iff_eq_none.mp (List.all_eq_true.mp absent name member)

/-- A group with a section, and the server's in any case, has each field from the entry of that name, else from the
group's own variable, else by default. No other section, variable or file changes it. -/
theorem groups_settled_apart (written : Written files (path.getD defaultPath) place keywords) (usual : Usual keywords)
    (loaded : (load files env path log).1 = .ok s) :
    place.From (said place.mark place.shape keywords env) (s.group place) ∧
      (place = .format → ∀ own others : Fields, keyword? keywords "plugin_config" = some (.object own) → own.Distinct →
        assigned? place.mark place.shape env "plugin_config" = some (.object others) →
        ∀ name, Fields.get? s.format.pluginConfig name = overlay (own.get? name) (others.get? name)) ∧
      ∀ files' env' path' log' s' keywords', Written files' (path'.getD defaultPath) place keywords' → Usual keywords' →
        (∀ name ∈ place.fields, keyword? keywords' name = keyword? keywords name ∧
          env'.get? (place.mark ++ name) = env.get? (place.mark ++ name)) →
        (load files' env' path' log').1 = .ok s' → s'.group place = s.group place := by
  have settled := load_from written usual loaded
  refine ⟨settled, ?_, ?_⟩
  · rintro rfl own others entry distinct set name
    exact pluginConfig_merged settled entry distinct set name
  · intro files' env' path' log' s' keywords' written' usual' same loaded'
    have settled' := load_from written' usual' loaded'
    exact (settled'.congr fun name member => said_congr (same name member).1 (same name member).2).unique settled

theorem format_kept_beside_others : ∃ s s' : Settings,
    (load (folder formatText "") fewVariables none []).1 = .ok s ∧
    (load (folder longText "FORMAT_USE_TABS=true\n") moreVariables none []).1 = .ok s' ∧
    s.format.newLineKind = some "lf" ∧ s.format.useTabs = none ∧
    Fields.get? s.format.pluginConfig "a" = some (.int 1) ∧ Fields.get? s.format.pluginConfig "b" = some (.int 3) ∧
    s'.format = s.format := by
  obtain ⟨one, two, -, -⟩ := texts_read
  obtain ⟨loads, loads', -, -⟩ := texts_load
  obtain ⟨s, loaded, -⟩ := exists_of_map loads
  obtain ⟨s', loaded', -⟩ := exists_of_map loads'
  have held : keywordsIn formatDocument .format = some formatEntries := rfl
  have held' : keywordsIn longDocument .format = some formatEntries := rfl
  obtain ⟨settled, merged, same⟩ := groups_settled_apart (one.written held "") formatEntries_usual loaded
  have entry : keyword? formatEntries "plugin_config" = some (.object [(.text "a", .int 1)]) := rfl
  have distinct : Fields.Distinct [(.text "a", .int 1)] := ⟨by simp, by simp⟩
  have set : assigned? "FORMAT_" FormatSettings.shape fewVariables "plugin_config" =
      some (.object [(.text "a", .int 2), (.text "b", .int 3)]) := eq_some_of_alike (by decide +kernel)
  have own : ∀ name ∈ Section.format.fields, keyword? formatEntries name = keyword? formatEntries name ∧
      moreVariables.get? ("FORMAT_" ++ name) = fewVariables.get? ("FORMAT_" ++ name) := by
    have agree : ∀ name ∈ Section.format.fields,
      moreVariables.get? ("FORMAT_" ++ name) = fewVariables.get? ("FORMAT_" ++ name) := by decide +kernel
    exact fun name member => ⟨rfl, agree name member⟩
  have kind : Schema.Checked.valid (some "lf") = .valid s.format.newLineKind := settled.newLineKind
  have tabs : s.format.useTabs = none := settled.useTabs
  refine ⟨s, s', loaded, loaded', (Schema.Checked.valid.inj kind).symm, tabs, ?_, ?_, ?_⟩
  · exact merged rfl _ _ entry distinct set "a"
  · exact merged rfl _ _ entry distinct set "b"
  · exact same _ _ _ _ _ _ (two.written held' _) formatEntries_usual own loaded'

/-- A section that says which variables are its own is settled by those, and the token that is dropped from a section
is missing wherever that is used. -/
theorem groups_settled_from_elsewhere :
    (∃ document s, Yaml.parse (Utf8.bytes markedText) = .ok document ∧
      (load (folder markedText "") [("OTHER_REPO", "other/repo")] none []).1 = .ok s ∧
      ∀ keywords, keywordsIn document.value .github = some keywords →
        ¬ s.github.From (said "GITHUB_" GitHubSettings.shape keywords [("OTHER_REPO", "other/repo")])) ∧
    ∃ document s, Yaml.parse (Utf8.bytes sharedText) = .ok document ∧
      (load (folder sharedText "") [] none []).1 = .ok s ∧
      ∀ keywords, keywordsIn document.value .format = some keywords →
        ¬ s.format.From (said "FORMAT_" FormatSettings.shape keywords []) := by
  obtain ⟨-, -, ⟨document, parsed, whole, -⟩, ⟨document', parsed', whole', -⟩⟩ := texts_read
  obtain ⟨-, -, loads, loads'⟩ := texts_load
  obtain ⟨s, loaded, repo⟩ := exists_of_map loads
  obtain ⟨s', loaded', config⟩ := exists_of_map loads'
  refine ⟨⟨document, s, parsed, loaded, fun keywords held settled => ?_⟩,
    document', s', parsed', loaded', fun keywords held settled => ?_⟩
  · rw [whole] at held
    cases held
    have default : s.github.repo = "dprint/dprint-plugin-json" := settled.repo
    rw [repo] at default
    exact absurd default (by decide)
  · rw [whole'] at held
    cases held
    have checked : Schema.mapping (.object [(.text "deep", .object [(.text "token", .int 1), (.text "a", .int 2)])]) =
        .valid s'.format.pluginConfig := settled.pluginConfig
    rw [Schema.mapping_distinct ⟨by simp, by simp⟩, eq_of_alikeFields config] at checked
    simp at checked

end Settings

end PluginKit
