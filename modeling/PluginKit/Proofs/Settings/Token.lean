import PluginKit.Proofs.Plugin.Activity
import PluginKit.Proofs.Settings.Layers
import PluginKit.Proofs.Text.Utf8
import PluginKit.Settings.Load

/-!
Where the token for the server comes from. The entry `token` of a configuration file is dropped. But names of
settings are compared without regard to case, so an entry that spells the name in another way is not dropped, and it
counts more than the environment.
-/

namespace PluginKit.Settings

open Activity

/-! ## Spellings -/

def spellsToken : Key → Bool
  | .text s => Environment.sameName s "token"
  | _ => false

def withoutSpellings (entries : Fields) : Fields := List.filter (fun field => !spellsToken field.1) entries

def withoutTokens : Value → Value
  | .object sections => .object (sections.map fun field => match field with
    | (.text "github", .object entries) => (.text "github", .object (withoutSpellings entries))
    | _ => field)
  | v => v

def serverSection : Value → Fields
  | .object sections => match Fields.get? sections "github" with
    | some (.object entries) => entries
    | _ => []
  | _ => []

def otherSpelling? (document : Value) : Option Value :=
  (List.find? (fun field => spellsToken field.1 && field.1 ≠ .text "token") (serverSection document)).map Prod.snd

theorem serverSection_withoutTokens (document : Value) :
    serverSection (withoutTokens document) = withoutSpellings (serverSection document) := by
  cases document with
  | object sections =>
      rw [withoutTokens, serverSection, serverSection]
      induction sections with
      | nil => rfl
      | cons field rest ih =>
          obtain ⟨key, value⟩ := field
          by_cases here : key = .text "github"
          · subst here
            cases value <;> simp [Fields.get?_cons, withoutSpellings]
          · have same : (match (key, value) with
                | (.text "github", .object entries) => (Key.text "github", Value.object (withoutSpellings entries))
                | _ => (key, value)) = (key, value) := by
              split
              · rename_i eq
                exact absurd (Prod.mk.inj eq).1 here
              · rfl
            rw [List.map_cons, same, Fields.get?_cons, Fields.get?_cons, if_neg here, if_neg here]
            exact ih
  | _ => rfl

theorem keyword?_erase (document : Value) :
    keyword? (Fields.erase (serverSection document) "token") "token" = otherSpelling? document := by
  rw [keyword?, otherSpelling?, Fields.erase, List.find?_filter]
  congr 2
  funext field
  obtain ⟨key, value⟩ := field
  have other : (!key.same (.text "token")) = decide (key ≠ .text "token") := by
    rw [decide_not, Bool.not_inj_iff, Bool.eq_iff_iff, Key.same_text, decide_eq_true_iff]
  dsimp only
  rw [other]
  cases key <;> simp [spellsToken, Bool.and_comm]

theorem withoutSpellings_erase (entries : Fields) :
    withoutSpellings (Fields.erase entries "token") = withoutSpellings entries := by
  rw [withoutSpellings, Fields.erase, List.filter_filter]
  refine List.filter_congr fun field _ => ?_
  by_cases same : field.1 = .text "token"
  · rw [same]
    decide
  · have other : field.1.same (.text "token") = false :=
      Bool.eq_false_iff.mpr fun eq => same ((Key.same_text _ _).mp eq)
    rw [other, Bool.not_false, Bool.and_true]

/-! ## Loading -/

theorem sectionOf?_ok {document : Value} {name : String} {found : Option Value} {log log' : List Log.Record}
    (run : sectionOf? document name log = (.ok found, log')) :
    match found with
    | none => ∀ fields, document = .object fields → Fields.get? fields name = none
    | some entry => ∃ fields, document = .object fields ∧ Fields.get? fields name = some entry := by
  unfold sectionOf? at run
  cases contained : containsName name document with
  | error cause =>
      rw [contained] at run
      cases run
  | ok present =>
      rw [contained] at run
      cases present with
      | false =>
          cases run
          rintro fields rfl
          exact Option.not_isSome_iff_eq_none.mp (Bool.eq_false_iff.mp (Except.ok.inj contained))
      | true =>
          cases entered : entryOf name document with
          | error cause =>
              rw [entered] at run
              cases run
          | ok entry =>
              rw [entered] at run
              cases run
              cases document with
              | object fields =>
                  obtain ⟨value, held⟩ := Option.isSome_iff_exists.mp (Except.ok.inj contained)
                  refine ⟨fields, rfl, ?_⟩
                  cases entered
                  rw [held, Option.getD_some]
              | _ => cases entered

theorem erase_of_absent {entries : Fields} {name : String} (absent : entries.get? name = none) :
    Fields.erase entries name = entries := by
  rw [Fields.erase, List.filter_eq_self]
  intro field member
  rw [Fields.get?, Fields.find?, Option.map_eq_none_iff, List.find?_eq_none] at absent
  simpa using absent field member

theorem withoutToken_ok {entry entry' : Value} {keywords : Fields} {log log' : List Log.Record}
    (run : withoutToken entry log = (.ok entry', log')) (kept : keywordsOf .github entry' = .ok keywords) :
    ∃ entries, entry = .object entries ∧ keywords = Fields.erase entries "token" := by
  have keywords_of_object : ∀ entries, entry' = .object entries → keywords = entries := by
    rintro entries rfl
    rw [keywordsOf] at kept
    split at kept
    · exact (Except.ok.inj kept).symm
    · cases kept
  unfold withoutToken at run
  cases contained : containsName "token" entry with
  | error cause =>
      rw [contained] at run
      cases run
  | ok present =>
      rw [contained] at run
      cases present with
      | false =>
          cases run
          cases entry with
          | object entries =>
              refine ⟨entries, rfl, ?_⟩
              rw [keywords_of_object entries rfl, erase_of_absent]
              exact Option.not_isSome_iff_eq_none.mp (Bool.eq_false_iff.mp (Except.ok.inj contained))
          | _ => cases kept
      | true =>
          cases entry with
          | object entries =>
              cases run
              exact ⟨entries, rfl, keywords_of_object _ rfl⟩
          | _ => cases run

theorem ofGroup_ok {α : Type} {x : Except GroupError α} {a : α} {log log' : List Log.Record}
    (run : ofGroup x log = (.ok a, log')) : x = .ok a := by
  cases x <;> cases run
  rfl

theorem orFail_ok {α : Type} {x : Except ShapeError α} {a : α} {log log' : List Log.Record}
    (run : orFail x log = (.ok a, log')) : x = .ok a := by
  cases x <;> cases run
  rfl

theorem serverSection_of_void {document : Value} (void : document.isVoid = true) : serverSection document = [] := by
  cases document with
  | object sections =>
      rw [List.isEmpty_iff.mp void]
      rfl
  | _ => rfl

theorem ofDocument_github {files : Files} {env : Environment} {document : Value} {given : Given}
    {log : List Log.Record} (ok : (ofDocument files env document log).1 = .ok given) :
    GitHubSettings.ofLayers files env (Fields.erase (serverSection document) "token") = .ok given.github := by
  unfold ofDocument at ok
  have same : serverSection (if document.isVoid then .object [] else document) = serverSection document := by
    split
    · rename_i void
      rw [serverSection_of_void void]
      rfl
    · rfl
  generalize (if document.isVoid then Value.object [] else document) = document' at ok same
  obtain ⟨plugin, log₁, -, ok⟩ := bind_fst_ok ok
  obtain ⟨format, log₂, -, ok⟩ := bind_fst_ok ok
  obtain ⟨release, log₃, -, ok⟩ := bind_fst_ok ok
  obtain ⟨found, log₄, looked, ok⟩ := bind_fst_ok ok
  have sought := sectionOf?_ok looked
  rw [← same]
  cases found with
  | none =>
      -- Without a section the group is built from nothing.
      obtain ⟨_, _, made, ok⟩ := bind_fst_ok ok
      cases made
      obtain ⟨debug, log₅, -, ok⟩ := bind_fst_ok ok
      obtain ⟨github, log₆, built, ok⟩ := bind_fst_ok ok
      cases ok
      have empty : serverSection document' = [] := by
        cases document' with
        | object sections =>
            have absent : Fields.get? sections "github" = none := sought sections rfl
            rw [serverSection, absent]
        | _ => rfl
      rw [empty]
      exact ofGroup_ok built
  | some entry =>
      obtain ⟨sections, rfl, held⟩ := sought
      obtain ⟨entry', log₅, dropped, ok⟩ := bind_fst_ok ok
      obtain ⟨keywords, log₆, kept, ok⟩ := bind_fst_ok ok
      obtain ⟨github, log₇, built, ok⟩ := bind_fst_ok ok
      obtain ⟨_, _, made, ok⟩ := bind_fst_ok ok
      cases made
      obtain ⟨debug, log₈, -, ok⟩ := bind_fst_ok ok
      cases ok
      obtain ⟨entries, rfl, rfl⟩ := withoutToken_ok dropped (orFail_ok kept)
      have whole : serverSection (.object sections) = entries := by
        change Fields.get? sections "github" = _ at held
        rw [serverSection, held]
      rw [whole]
      exact ofGroup_ok built

theorem ofGiven_github {files : Files} {env : Environment} {given : Given} {s : Settings}
    (settled : ofGiven files env given = .ok s) : s.github = given.github := by
  unfold ofGiven at settled
  simp only [bind_eq_ok] at settled
  obtain ⟨lower, -, upperSections, -, lowerSections, -, plugin, -, format, -, release, -, checked⟩ := settled
  simp only [ofChecked_eq_ok, Schema.Checked.seq_eq_valid, Schema.Checked.map_eq_valid] at checked
  obtain ⟨_, ⟨_, ⟨_, ⟨_, ⟨plugin, -, rfl⟩, format, -, rfl⟩, github, same, rfl⟩, release, -, rfl⟩, debug, -, rfl⟩ :=
    checked
  cases same
  rfl

theorem load_github {files : Files} {env : Environment} {path : Option Path} {s : Settings} {log : List Log.Record}
    {document : Value} (loaded : (load files env path log).1 = .ok s)
    (read : documentOf files (path.getD defaultPath) = .ok document) :
    GitHubSettings.ofLayers files env (Fields.erase (serverSection document) "token") = .ok s.github := by
  unfold load at loaded
  obtain ⟨document', log₁, found, loaded⟩ := bind_fst_ok loaded
  obtain ⟨given, log₂, gave, settled⟩ := bind_fst_ok loaded
  cases (Prod.mk.inj found).1.symm.trans read
  rw [ofGiven_github (ofGroup_ok (Prod.ext settled rfl))]
  exact ofDocument_github (by rw [gave])

/-! ## The token -/

def lookupNames : List String :=
  [itselfName, "_env_nested_max_split", "_env_prefix", "_case_sensitive", "_env_ignore_empty", "_env_parse_none_str",
    "_env_nested_delimiter", "_env_file", "_env_file_encoding", "_secrets_dir", "_cli_parse_args"]

theorem ofKeywords_congr (usual : String) {keywords keywords' : Fields}
    (same : withoutSpellings keywords = withoutSpellings keywords') :
    Lookup.ofKeywords usual keywords = Lookup.ofKeywords usual keywords' := by
  have other : ∀ name ∈ lookupNames, Environment.sameName name "token" = false := by decide
  have given : ∀ name ∈ lookupNames, keywords.get? name = keywords'.get? name := by
    intro name member
    have kept : (!spellsToken (.text name)) = true := by simp [spellsToken, other name member]
    rw [← Fields.get?_filter keywords (fun field => !spellsToken field.1) name fun _ => kept,
      ← Fields.get?_filter keywords' (fun field => !spellsToken field.1) name fun _ => kept]
    exact congrArg (Fields.get? · name) same
  simp only [lookupNames, List.forall_mem_cons] at given
  obtain ⟨h₁, h₂, h₃, h₄, h₅, h₆, h₇, h₈, h₉, h₁₀, h₁₁, -⟩ := given
  simp only [Lookup.ofKeywords, h₁, h₂, h₃, h₄, h₅, h₆, h₇, h₈, h₉, h₁₀, h₁₁]

def Settles (said : Option Value) (token : String) : Prop :=
  match said with
  | some value => Schema.text value = .valid token
  | none => token = ""

theorem Settles.unique {said : Option Value} {token token' : String} (one : Settles said token)
    (two : Settles said token') : token = token' :=
  Chosen.unique one two

theorem token_settled {fields : Fields} {token : String}
    (checked : Schema.withDefault "" ["token"] Schema.text fields = .valid token) :
    Settles (fields.get? "token") token :=
  chosen_of_withDefault checked

theorem ofLayers_token {files : Files} {env : Environment} {keywords : Fields} {g : GitHubSettings}
    (built : GitHubSettings.ofLayers files env keywords = .ok g) :
    ∃ l upper middle lower, Lookup.ofKeywords "GITHUB_" keywords = .ok l ∧
      Told l files env GitHubSettings.shape.plain upper middle lower ∧
      Settles (overlay (overlay (overlay (keyword? keywords "token") (plainField l (environmentLayer l env) "token"))
        (middle.get? "token")) (lower.get? "token")) g.token := by
  simp only [GitHubSettings.ofLayers, bind_eq_ok] at built
  obtain ⟨fields, layers, checked⟩ := built
  obtain ⟨l, upper, middle, lower, looked, told, rfl⟩ := layered_ok layers
  refine ⟨l, upper, middle, lower, looked, told, ?_⟩
  rw [← told.get? (by decide) keywords (by simp)]
  simp only [ofChecked_eq_ok, Schema.Checked.seq_eq_valid, Schema.Checked.map_eq_valid] at checked
  obtain ⟨_, ⟨_, ⟨_, ⟨_, ⟨apiUrl, -, rfl⟩, repo, -, rfl⟩, branch, -, rfl⟩, token, valid, rfl⟩, timeout, -, rfl⟩ :=
    checked
  exact token_settled valid

theorem Told.unique {l : Lookup} {files : Files} {env : Environment} {names : List String}
    {upper upper' middle middle' lower lower' : Fields} (one : Told l files env names upper middle lower)
    (two : Told l files env names upper' middle' lower') : upper = upper' ∧ middle = middle' ∧ lower = lower' := by
  obtain ⟨assigned, read, between⟩ := one.middle
  obtain ⟨assigned', read', between'⟩ := two.middle
  cases read.symm.trans read'
  exact ⟨Except.ok.inj (one.upper.symm.trans two.upper), Except.ok.inj (between.symm.trans between'),
    Except.ok.inj (one.lower.symm.trans two.lower)⟩

theorem get?_of_lowerName (env : Environment) {name name' : String}
    (same : Environment.lowerName name = Environment.lowerName name') : env.get? name = env.get? name' := by
  simp only [Environment.get?, Environment.sameName, same]

theorem settles_environment {l : Lookup} {files : Files} {env : Environment} {upper middle lower : Fields}
    {token : String} (usual : Lookup.ofKeywords "GITHUB_" [] = .ok l)
    (told : Told l files env GitHubSettings.shape.plain upper middle lower)
    (settles : Settles (overlay (overlay (plainField l (environmentLayer l env) "token") (middle.get? "token"))
      (lower.get? "token")) token) :
    token = (env.get? "GITHUB_TOKEN").getD "" := by
  obtain ⟨assigned, read, between⟩ := told.middle
  have unassigned : middle.get? "token" = none := by
    cases usual
    cases read
    rw [layerFields_ok between, Fields.get?_filterMap, if_pos (by simp [GitHubSettings.shape])]
    rfl
  have secretless : lower.get? "token" = none := by
    cases usual
    cases told.lower
    rfl
  have named : plainField l (environmentLayer l env) "token" = (env.get? "GITHUB_TOKEN").map .text := by
    have same : Environment.lowerName "GITHUB_TOKEN" = Environment.lowerName "GITHUB_token" := by decide
    rw [get?_of_lowerName env same,
      ← environmentLayer_get? (l := l) env "GITHUB_token" (by cases usual; rfl) (by cases usual; rfl)]
    cases usual
    rfl
  rw [unassigned, secretless, named] at settles
  cases held : env.get? "GITHUB_TOKEN" with
  | none =>
      rw [held] at settles
      exact settles
  | some value =>
      rw [held] at settles
      exact (Schema.Checked.valid.inj settles).symm

/-! ## Short files -/

theorem stream_ofBytes {text : String} (filled : Utf8.bytes text ≠ [])
    (short : (Utf8.bytes text).length ≤ Text.chunkSize) (valid : Utf8.faultFrom? 0 0 (Utf8.bytes text) = none)
    (unmarked : text.contains Text.standInMark = false) (open_ : text.toList.getLast? ≠ some '\r')
    (lines : Text.universalNewlines text.toList = text.toList) :
    Text.Stream.ofBytes (Utf8.bytes text) = ⟨text.toList, none⟩ := by
  have whole : (Utf8.bytes text).take Text.chunkSize = Utf8.bytes text := List.take_of_length_le short
  have rest : (Utf8.bytes text).drop Text.chunkSize = [] := List.drop_of_length_le short
  have unended : (Utf8.bytes text).isEmpty = false := List.isEmpty_eq_false_iff.mpr filled
  have decoded : Utf8.decode (Utf8.bytes text) = .ok text := by
    rw [Utf8.decode_bytes, Text.held_of_unmarked unmarked]
  have last : Utf8.decode [] = .ok "" := by
    have nothing : ("" : String).contains Text.standInMark = false := by
      rw [String.contains_char_eq]
      decide
    rw [← Text.held_of_unmarked nothing, ← Utf8.decode_bytes]
    rfl
  have first : Text.Feed.decodeChunk false (Utf8.bytes text) = .ok (text.toList, []) := by
    rw [Text.Feed.decodeChunk, valid, decoded]
    rfl
  have final : Text.Feed.decodeChunk true [] = .ok ([], []) := by
    rw [Text.Feed.decodeChunk, last]
    rfl
  have folded : Text.Feed.foldLines false false text.toList = (text.toList, false) := by
    simp [Text.Feed.foldLines, open_, lines]
  obtain ⟨n, count⟩ : ∃ n, (Utf8.bytes text).length = n + 1 :=
    Nat.exists_eq_succ_of_ne_zero (mt List.length_eq_zero_iff.mp filled)
  have request : Text.Feed.request ⟨Utf8.bytes text, [], false, #[], (0, 0)⟩ = Text.chunkSize := rfl
  rw [Text.Stream.ofBytes, count, Text.Feed.run, request, whole, unended, List.nil_append, first]
  simp only [folded, rest, Bool.false_eq_true, if_false]
  rw [Text.Feed.run]
  simp [final, Text.Feed.foldLines, Text.universalNewlines]

def serverDocument (key value : String) : Value := .object [(.text "github", .object [(.text key, .text value)])]

def isServerDocument (key value : String) : Except Error Value → Bool
  | .ok (.object [(.text name, .object [(.text k, .text v)])]) => name == "github" && k == key && v == value
  | _ => false

theorem isServerDocument_eq {key value : String} {x : Except Error Value} (checked : isServerDocument key value x = true) :
    x = .ok (serverDocument key value) := by
  unfold isServerDocument at checked
  split at checked
  · simp only [Bool.and_eq_true, beq_iff_eq] at checked
    obtain ⟨⟨rfl, rfl⟩, rfl⟩ := checked
    rfl
  · cases checked

def threeFiles : Files :=
  ⟨["desk"], [(["desk", "a.yaml"], .file (Utf8.bytes "github:\n  token: a\n")),
    (["desk", "b.yaml"], .file (Utf8.bytes "github:\n  token: b\n")),
    (["desk", "c.yaml"], .file (Utf8.bytes "github:\n  Token: c\n"))], false⟩

theorem threeFiles_read :
    documentOf threeFiles ⟨"", ["a.yaml"]⟩ = .ok (serverDocument "token" "a") ∧
    documentOf threeFiles ⟨"", ["b.yaml"]⟩ = .ok (serverDocument "token" "b") ∧
    documentOf threeFiles ⟨"", ["c.yaml"]⟩ = .ok (serverDocument "Token" "c") := by
  have stream : ∀ text ∈ ["github:\n  token: a\n", "github:\n  token: b\n", "github:\n  Token: c\n"],
      Text.Stream.ofBytes (Utf8.bytes text) = ⟨text.toList, none⟩ := by
    intro text member
    simp only [List.mem_cons, List.not_mem_nil, or_false] at member
    rcases member with rfl | rfl | rfl
    all_goals
      refine stream_ofBytes ?_ ?_ ?_ (by rw [String.contains_char_eq]; decide) ?_ ?_
      all_goals decide +kernel
  have reads : ∀ text {path key value}, documentOf threeFiles path =
      ((Yaml.parse (Utf8.bytes text)).mapError .unreadable).map keptValue →
      isServerDocument key value (((Yaml.parse (Utf8.bytes text)).mapError .unreadable).map keptValue) = true →
      documentOf threeFiles path = .ok (serverDocument key value) := fun _ _ _ _ found checked =>
    isServerDocument_eq (found ▸ checked)
  refine ⟨reads "github:\n  token: a\n" rfl ?_, reads "github:\n  token: b\n" rfl ?_,
    reads "github:\n  Token: c\n" rfl ?_⟩
  all_goals
    rw [Yaml.parse, stream _ (by simp)]
    decide +kernel

def tokenOf? : Except Error Settings → Option String
  | .ok s => some s.github.token
  | .error _ => none

theorem exists_of_tokenOf? {x : Except Error Settings} {token : String} (found : tokenOf? x = some token) :
    ∃ s, x = .ok s ∧ s.github.token = token := by
  cases x with
  | error e => cases found
  | ok s => exact ⟨s, rfl, Option.some.inj found⟩

theorem threeFiles_load :
    tokenOf? (load threeFiles [("GITHUB_TOKEN", "real")] (some ⟨"", ["a.yaml"]⟩) []).1 = some "real" ∧
    tokenOf? (load threeFiles [("GITHUB_TOKEN", "real")] (some ⟨"", ["b.yaml"]⟩) []).1 = some "real" ∧
    tokenOf? (load threeFiles [("GITHUB_TOKEN", "real")] (some ⟨"", ["c.yaml"]⟩) []).1 = some "c" := by
  obtain ⟨a, b, c⟩ := threeFiles_read
  refine ⟨?_, ?_, ?_⟩
  · rw [load, Option.getD_some, a]
    decide +kernel
  · rw [load, Option.getD_some, b]
    decide +kernel
  · rw [load, Option.getD_some, c]
    decide +kernel

/-- The token of a configuration that spells it as `token` only is not from the file: two such files that are
otherwise alike settle the same one, the environment's if neither says where else to look. An entry that spells it in
another way is the token. -/
theorem token_from_environment {files : Files} {env : Environment} {path₁ path₂ : Option Path}
    {log₁ log₂ : List Log.Record} {d₁ d₂ : Value} {s₁ s₂ : Settings}
    (read₁ : documentOf files (path₁.getD defaultPath) = .ok d₁)
    (read₂ : documentOf files (path₂.getD defaultPath) = .ok d₂) (alike : withoutTokens d₁ = withoutTokens d₂)
    (loaded₁ : (load files env path₁ log₁).1 = .ok s₁) (loaded₂ : (load files env path₂ log₂).1 = .ok s₂) :
    (otherSpelling? d₁ = none → otherSpelling? d₂ = none → s₁.github.token = s₂.github.token ∧
      (Lookup.ofKeywords "GITHUB_" (serverSection d₁) = Lookup.ofKeywords "GITHUB_" [] →
        s₁.github.token = (env.get? "GITHUB_TOKEN").getD "")) ∧
    ∀ value, otherSpelling? d₁ = some value → Schema.text value = .valid s₁.github.token := by
  obtain ⟨l, upper, middle, lower, looked, told, settles₁⟩ := ofLayers_token (load_github loaded₁ read₁)
  obtain ⟨l', upper', middle', lower', looked', told', settles₂⟩ := ofLayers_token (load_github loaded₂ read₂)
  rw [keyword?_erase] at settles₁ settles₂
  have sections : withoutSpellings (serverSection d₁) = withoutSpellings (serverSection d₂) := by
    rw [← serverSection_withoutTokens, ← serverSection_withoutTokens, alike]
  refine ⟨fun unset₁ unset₂ => ?_, fun value spelled => ?_⟩
  · rw [unset₁] at settles₁
    rw [unset₂] at settles₂
    -- Both look in the same places and find the same there.
    have same : l = l' := by
      have congr := ofKeywords_congr "GITHUB_"
        (by rw [withoutSpellings_erase, withoutSpellings_erase, sections] :
          withoutSpellings (Fields.erase (serverSection d₁) "token") =
            withoutSpellings (Fields.erase (serverSection d₂) "token"))
      exact Except.ok.inj (looked.symm.trans (congr.trans looked'))
    subst same
    obtain ⟨-, rfl, rfl⟩ := told.unique told'
    refine ⟨settles₁.unique settles₂, fun usual => settles_environment ?_ told settles₁⟩
    rw [← usual, ← looked]
    exact ofKeywords_congr _ (withoutSpellings_erase _).symm
  · rw [spelled] at settles₁
    obtain ⟨v₁, eq₁, text₁⟩ := text_overlay value (plainField l (environmentLayer l env) "token")
    obtain ⟨v₂, eq₂, text₂⟩ := text_overlay v₁ (middle.get? "token")
    obtain ⟨v₃, eq₃, text₃⟩ := text_overlay v₂ (lower.get? "token")
    rw [eq₁, eq₂, eq₃] at settles₁
    exact (text₁ _).mp ((text₂ _).mp ((text₃ _).mp settles₁))

theorem token_ignored_in_file : ∃ s₁ s₂ : Settings,
    (load threeFiles [("GITHUB_TOKEN", "real")] (some ⟨"", ["a.yaml"]⟩) []).1 = .ok s₁ ∧
    (load threeFiles [("GITHUB_TOKEN", "real")] (some ⟨"", ["b.yaml"]⟩) []).1 = .ok s₂ ∧
    s₁.github.token = s₂.github.token ∧ s₁.github.token = "real" := by
  have read₁ : documentOf threeFiles (Option.getD (some ⟨"", ["a.yaml"]⟩) defaultPath) =
      .ok (serverDocument "token" "a") := threeFiles_read.1
  have read₂ : documentOf threeFiles (Option.getD (some ⟨"", ["b.yaml"]⟩) defaultPath) =
      .ok (serverDocument "token" "b") := threeFiles_read.2.1
  obtain ⟨loads₁, loads₂, -⟩ := threeFiles_load
  obtain ⟨s₁, loaded₁, -⟩ := exists_of_tokenOf? loads₁
  obtain ⟨s₂, loaded₂, -⟩ := exists_of_tokenOf? loads₂
  have alike : withoutTokens (serverDocument "token" "a") = withoutTokens (serverDocument "token" "b") := rfl
  obtain ⟨same, named⟩ := (token_from_environment read₁ read₂ alike loaded₁ loaded₂).1 rfl rfl
  exact ⟨s₁, s₂, loaded₁, loaded₂, same, named rfl⟩

/-- A file that spells the token in another way settles it, whatever the environment says. -/
theorem token_read_from_other_spelling : ∃ (d₁ d₂ : Value) (s₁ s₂ : Settings),
    documentOf threeFiles ⟨"", ["a.yaml"]⟩ = .ok d₁ ∧ documentOf threeFiles ⟨"", ["c.yaml"]⟩ = .ok d₂ ∧
    withoutTokens d₁ = withoutTokens d₂ ∧
    (load threeFiles [("GITHUB_TOKEN", "real")] (some ⟨"", ["a.yaml"]⟩) []).1 = .ok s₁ ∧
    (load threeFiles [("GITHUB_TOKEN", "real")] (some ⟨"", ["c.yaml"]⟩) []).1 = .ok s₂ ∧
    s₁.github.token ≠ s₂.github.token := by
  obtain ⟨read₁, -, read₂⟩ := threeFiles_read
  obtain ⟨loads₁, -, loads₂⟩ := threeFiles_load
  obtain ⟨s₁, loaded₁, token₁⟩ := exists_of_tokenOf? loads₁
  obtain ⟨s₂, loaded₂, token₂⟩ := exists_of_tokenOf? loads₂
  refine ⟨_, _, s₁, s₂, read₁, read₂, rfl, loaded₁, loaded₂, ?_⟩
  rw [token₁, token₂]
  decide

end PluginKit.Settings
