import PluginKit.Log.Record
import PluginKit.Settings.Groups
import PluginKit.Yaml.Document

/-!
The settings of a run, from a configuration file, the environment and the file `.env`. A token is taken
from the environment only: the configuration file's own is dropped with a warning.
-/

namespace PluginKit

structure Settings where
  plugin : PluginSettings
  format : FormatSettings
  github : GitHubSettings
  release : ReleaseSettings
  debug : Bool

namespace Settings

/-! ## Errors -/

inductive Section where
  | plugin
  | format
  | github
  | release
  deriving DecidableEq

namespace Section

def name : Section → String
  | .plugin => "plugin"
  | .format => "format"
  | .github => "github"
  | .release => "release"

def typeName : Section → String
  | .plugin => "PluginSettings"
  | .format => "FormatSettings"
  | .github => "GitHubSettings"
  | .release => "ReleaseSettings"

end Section

inductive ShapeError where
  | notContainer (kind : String)
  | listIndex
  | textIndex
  | notIndexed (kind : String)
  | bytesNeeded
  | deletion (kind : String)
  | notMapping (place : Section) (kind : String)
  | keyNotText
  deriving DecidableEq

def ShapeError.message : ShapeError → String
  | .notContainer kind => "argument of type '" ++ kind ++ "' is not iterable"
  | .listIndex => "list indices must be integers or slices, not str"
  | .textIndex => "string indices must be integers, not 'str'"
  | .notIndexed kind => "'" ++ kind ++ "' object is not subscriptable"
  | .bytesNeeded => "a bytes-like object is required, not 'str'"
  | .deletion kind => "'" ++ kind ++ "' object does not support item deletion"
  | .notMapping place kind =>
    "dprint_json.config." ++ place.typeName ++ "() argument after ** must be a mapping, not " ++ kind
  | .keyNotText => "keywords must be strings"

inductive Error where
  | unreadable (cause : Yaml.Error)
  | shape (cause : ShapeError)
  | group (cause : GroupError)

def Error.message : Error → String
  | .unreadable cause => cause.message
  | .shape cause => cause.message
  | .group cause => cause.message

abbrev Loading := ExceptT Error (StateM (List Log.Record))

def fail {α : Type} (cause : ShapeError) : Loading α := throw (.shape cause)

def ofGroup {α : Type} : Except GroupError α → Loading α
  | .ok a => pure a
  | .error cause => throw (.group cause)

/-! ## The configuration file -/

def occursIn (part : List Char) : List Char → Bool
  | [] => part.isEmpty
  | c :: rest => part.isPrefixOf (c :: rest) || occursIn part rest

def containsName (name : String) : Value → Except ShapeError Bool
  | .object fields => .ok (Fields.get? fields name).isSome
  | .set members => .ok (members.contains (.text name))
  | .pair a b => .ok ([a, b].any fun item => item.text? == some name)
  | .bytes _ => .error .bytesNeeded
  | .list items => .ok (items.any fun item => item.text? == some name)
  | .text s => .ok (occursIn name.toList s.toList)
  | v => .error (.notContainer v.kind)

def entryOf (name : String) : Value → Except ShapeError Value
  | .object fields => .ok ((Fields.get? fields name).getD .null)
  | .list _ => .error .listIndex
  | .text _ => .error .textIndex
  | v => .error (.notIndexed v.kind)

def keywordsOf (place : Section) : Value → Except ShapeError Fields
  | .object fields =>
    if List.all fields fun field => field.1.isText then .ok fields else .error .keyNotText
  | v => .error (.notMapping place v.kind)

def tokenWarning : Log.Record :=
  { logger := Log.partLogger "config"
    level := Log.warningLevel
    message := Log.warningMessage ("token found in config.yaml - this setting is env-var only. "
      ++ "Use the GITHUB_TOKEN environment variable instead. Ignoring YAML value.") }

def orFail {α : Type} : Except ShapeError α → Loading α
  | .ok a => pure a
  | .error cause => fail cause

def sectionOf? (document : Value) (name : String) : Loading (Option Value) := do
  if ← orFail (containsName name document) then
    return some (← orFail (entryOf name document))
  return none

def withoutToken (entry : Value) : Loading Value := do
  if ← orFail (containsName "token" entry) then
    modify (· ++ [tokenWarning])
    match entry with
    | .object fields => return .object (Fields.erase fields "token")
    | .list _ => fail .listIndex
    | v => fail (.deletion v.kind)
  return entry

structure Given where
  plugin : Option PluginSettings
  format : Option FormatSettings
  release : Option ReleaseSettings
  github : GitHubSettings
  debug : Option Value

def group? {α : Type} (document : Value) (place : Section)
    (build : Fields → Except GroupError α) : Loading (Option α) := do
  match ← sectionOf? document place.name with
  | none => return none
  | some entry => return some (← ofGroup (build (← orFail (keywordsOf place entry))))

def ofDocument (files : Files) (env : Environment) (document : Value) : Loading Given := do
  let document := if document.isVoid then .object [] else document
  let plugin ← group? document .plugin (PluginSettings.ofLayers files env)
  let format ← group? document .format (FormatSettings.ofLayers files env)
  let release ← group? document .release (ReleaseSettings.ofLayers files env)
  let github? ← match ← sectionOf? document Section.github.name with
    | none => pure none
    | some entry =>
      let keywords ← orFail (keywordsOf .github (← withoutToken entry))
      pure (some (← ofGroup (GitHubSettings.ofLayers files env keywords)))
  let debug ← sectionOf? document "debug"
  let github ← match github? with
    | some settings => pure settings
    | none => ofGroup (GitHubSettings.ofLayers files env [])
  return ⟨plugin, format, release, github, debug⟩

/-! ## The other layers -/

def dotEnvPath : Path := Path.ofString ".env"

def ownLookup : Lookup := { mark := some "", envFiles := .text dotEnvPath.text }

def Section.shape : Section → Shape
  | .plugin => PluginSettings.shape
  | .format => FormatSettings.shape
  | .github => GitHubSettings.shape
  | .release => ReleaseSettings.shape

def Section.canonical (place : Section) : Value → Value
  | .object fields =>
    let names := place.shape.plain ++ place.shape.objects
    .object (Fields.ofPairs (fields.map fun field => match field.1 with
      | .text s => (.text ((names.find? fun name => Environment.sameName name s).getD s), field.2)
      | _ => field))
  | v => v

def jsonSections (layer : Layer) : Except GroupError Fields :=
  [Section.plugin, .format, .github, .release].foldlM (fun (fields : Fields) place => do
    match ← objectField ownLookup layer place.name with
    | none => return fields
    | some value => return fields ++ [(Key.text place.name, place.canonical value)]) []

def layeredGroup {α : Type} (place : Section) (given : Option α) (below : Fields)
    (build : Fields → Except GroupError α) : Except GroupError (Schema.Checked α) :=
  match given, below.get? place.name with
  | some settings, _ => .ok (.valid settings)
  | none, some (.object fields) => match build fields with
    | .ok settings => .ok (.valid settings)
    | .error cause => cause.asFaults.map fun faults =>
        Schema.Checked.under (.field place.name) (.invalid faults)
  | none, some _ => .ok (Schema.Checked.under (.field place.name) (Schema.Checked.fault .recordType))
  | none, none => (build []).map .valid

def ofGiven (files : Files) (env : Environment) (given : Given) : Except GroupError Settings := do
  let upperLayer := environmentLayer ownLookup env
  let lowerLayer ← dotEnvLayer ownLookup files env
  let upper ← jsonSections upperLayer
  let lower ← jsonSections lowerLayer
  let below := mergeFields upper lower
  let plugin ← layeredGroup .plugin given.plugin below (PluginSettings.ofLayers files env)
  let format ← layeredGroup .format given.format below (FormatSettings.ofLayers files env)
  let release ← layeredGroup .release given.release below (ReleaseSettings.ofLayers files env)
  let debugValue := given.debug <|> plainField ownLookup upperLayer "debug"
    <|> plainField ownLookup lowerLayer "debug"
  let debug := match debugValue with
    | none => .valid false
    | some value => Schema.Checked.under (.field "debug") (Schema.flag value)
  ofChecked (Settings.mk <$> plugin <*> format <*> .valid given.github <*> release <*> debug)

/-! ## Loading -/

def defaultPath : Path := Path.ofString "config.yaml"

/-- The value of a document as the settings keep it. The entries of the sections are copied, while what lies
deeper is shared, so the object of the server's section has no token there. -/
def keptValue (document : Yaml.Document) : Value :=
  match document.root with
  | none => .null
  | some id =>
    let dropped := match document.field? Section.github.name id with
      | some server => document.erase "token" server
      | none => document
    document.copied dropped 3 id

def documentOf (files : Files) (path : Path) : Except Error Value := do
  if ← (files.has path).mapError (fun fault => .group (.file fault path)) then
    let data ← (files.read path).mapError (fun fault => .group (.file fault path))
    return keptValue (← (Yaml.parse data).mapError .unreadable)
  else return .null

def load (files : Files) (env : Environment) (path : Option Path) : Loading Settings := do
  let document ← ExceptT.mk (pure (documentOf files (path.getD defaultPath)))
  let given ← ofDocument files env document
  ofGroup (ofGiven files env given)

/-! ## Settings kept -/

structure Loaded where
  serial : Nat
  settings : Settings

structure Store where
  loads : Nat
  kept : Option Loaded

namespace Store

def empty : Store := ⟨0, none⟩

abbrev Access := ExceptT Error (StateM (Store × List Log.Record))

def load (files : Files) (env : Environment) (path : Option Path) : Access Loaded :=
  fun (store, log) =>
    match (Settings.load files env path).run log with
    | (.ok settings, log) => (.ok ⟨store.loads, settings⟩, { store with loads := store.loads + 1 }, log)
    | (.error e, log) => (.error e, store, log)

def reload (files : Files) (env : Environment) (path : Option Path) : Access Loaded := do
  let loaded ← load files env path
  modify fun (store, log) => ({ store with kept := some loaded }, log)
  return loaded

def get (files : Files) (env : Environment) : Access Loaded := do
  let (store, _) ← getThe (Store × List Log.Record)
  match store.kept with
  | some loaded => return loaded
  | none => reload files env none

end Store

end Settings

end PluginKit
