import PluginKit.Files
import PluginKit.Json.Parser
import PluginKit.Schema.Scalar
import PluginKit.Settings.Lookup
import PluginKit.Text.Codec

/-!
Where settings come from. Keywords come first, then the environment, files of assignments, and
directories with one file for each variable. Values that are objects are merged over all of them; of other
values the first one counts.
-/

namespace PluginKit.Settings

inductive Source where
  | environment
  | dotEnv
  | secrets
  deriving DecidableEq

def Source.name : Source → String
  | .environment => "EnvSettingsSource"
  | .dotEnv => "DotEnvSettingsSource"
  | .secrets => "SecretsSettingsSource"

inductive GroupError where
  | invalid (faults : List Schema.Fault)
  | badKeyword (fault : KeywordFault)
  | badJson (field : String) (source : Source)
  | unavailable (field : String) (source : Source)
  | tooDeep (error : Json.Error)
  | file (fault : FileFault) (path : Path)
  | unknownEncoding (name : String)
  | undecodable (fault : Text.Codec.Fault)
  | notArguments (kind : String)
  | secretsFile

def GroupError.message : GroupError → String
  | .invalid _ => "invalid settings"
  | .badKeyword fault => fault.message
  | .badJson field source =>
    "error parsing value for field \"" ++ field ++ "\" from source \"" ++ source.name ++ "\""
  | .unavailable field source =>
    "error getting value for field \"" ++ field ++ "\" from source \"" ++ source.name ++ "\""
  | .tooDeep error => error.message
  | .file fault path => fault.message path
  | .unknownEncoding name => "unknown encoding: " ++ name
  | .undecodable fault => fault.message
  | .notArguments kind =>
    "cli_parse_args must be a list or tuple of strings, received <class '" ++ kind ++ "'>"
  | .secretsFile => "secrets_dir must reference a directory, not a file"

def GroupError.asFaults : GroupError → Except GroupError (List Schema.Fault)
  | .invalid faults => .ok faults
  | .badJson _ _ | .unavailable _ _ | .notArguments _ | .secretsFile | .undecodable _ =>
    .ok [⟨.invalidValue, []⟩]
  | error => .error error

/-! ## Layers -/

structure Layer where
  source : Source
  entries : List (String × Option String)

def Layer.get? (layer : Layer) (name : String) : Option String := (layer.entries.lookup name).join

def putEntry (entries : List (String × Option String)) (entry : String × Option String) :
    List (String × Option String) :=
  if entries.any fun old => old.1 == entry.1 then
    entries.map fun old => if old.1 == entry.1 then entry else old
  else entries ++ [entry]

def Lookup.layer (l : Lookup) (source : Source) (entries : List (String × Option String)) : Layer :=
  let kept := entries.filter fun entry => !(l.skipsEmpty && entry.2 == some "")
  ⟨source, (kept.map fun entry => (l.form entry.1, entry.2)).foldl putEntry []⟩

def environmentLayer (l : Lookup) (env : Environment) : Layer :=
  l.layer .environment (env.map fun entry => (entry.1, some entry.2))

def Lookup.codec (l : Lookup) : Except GroupError Text.Codec :=
  if l.encoding.isVoid then .ok .utf8
  else match l.encoding with
    | .text name => match Text.Codec.ofName? name with
      | some codec => .ok codec
      | none => .error (.unknownEncoding name)
    | v => .error (.badKeyword (.notEncoding v.kind))

def readText (files : Files) (codec : Text.Codec) (path : Path) : Except GroupError String := do
  let data ← (files.read path).mapError (.file · path)
  let text ← (codec.decode data).mapError .undecodable
  return String.ofList (Text.universalNewlines text.toList)

def assignmentsOf (l : Lookup) (files : Files) (env : Environment) (path : Path) :
    Except GroupError (List DotEnv.Binding) := do
  if ← (files.isFile path).mapError (.file · path) then
    return DotEnv.parse env (← readText files (← l.codec) path)
  return []

def dotEnvLayer (l : Lookup) (files : Files) (env : Environment) : Except GroupError Layer := do
  let paths ← (pathsOf l.envFiles).mapError .badKeyword
  let found ← paths.mapM fun path => do assignmentsOf l files env (← path.mapError .badKeyword)
  return l.layer .dotEnv found.flatten

/-! ## Merging -/

mutual

def merge : Value → Value → Value
  | .object upper, .object lower => .object (mergeFields upper lower)
  | upper, _ => upper

def mergeFields : List (Key × Value) → Fields → Fields
  | [], lower => lower
  | (key, value) :: rest, lower =>
    let merged := match Fields.find? lower key with
      | some below => merge value below
      | none => value
    mergeFields rest (Fields.put lower key merged)

end

/-! ## Fields -/

def readJson (field : String) (source : Source) (text : String) : Except GroupError Value :=
  match Json.parse text with
  | .ok value => .ok value
  | .error error => match error.problem with
    | .tooDeep _ => .error (.tooDeep error)
    | _ => .error (.badJson field source)

def Lookup.plain (l : Lookup) (text : String) : Value := if l.nothing = some text then .null else .text text

/-- Puts a value at the end of a way of keys. Where a key has another value than an object, nothing
changes. A value that is `weak` takes no place but that of an empty object. -/
def putAlong (value : Value) (weak : Bool) : List String → Fields → Fields
  | [], fields => fields
  | [key], fields => match weak, fields.get? key with
    | true, some (.object []) => fields.put (.text key) value
    | true, some _ => fields
    | _, _ => fields.put (.text key) value
  | key :: rest, fields => match fields.get? key with
    | some (.object inner) => fields.put (.text key) (.object (putAlong value weak rest inner))
    | some _ => fields
    | none => fields.put (.text key) (.object (putAlong value weak rest []))

def afterMark? (mark name : String) : Option String :=
  if mark.toList.isPrefixOf name.toList then some (String.ofList (name.toList.drop mark.length)) else none

/-- Puts the value of a variable into an object. Right inside of the object the value is the text; further
down it is JSON where it can be. -/
def putSpelled (l : Lookup) (keys : List String) (text : Option String) (fields : Fields) :
    Except GroupError Fields :=
  match text with
  | none => .ok (putAlong .null false keys fields)
  | some text =>
    let plain := putAlong (l.plain text) (l.nothing = some text) keys fields
    if text.isEmpty || keys.length ≤ 1 then .ok plain
    else match Json.parse text with
      | .ok value => .ok (putAlong value false keys fields)
      | .error error => match error.problem with
        | .tooDeep _ => .error (.tooDeep error)
        | _ => .ok plain

def spelledOut (l : Lookup) (layer : Layer) (name : String) : Except GroupError Fields :=
  match l.delimiter with
  | none => .ok []
  | some delimiter => layer.entries.foldlM (fun (fields : Fields) entry =>
      match afterMark? (name ++ delimiter) entry.1 with
      | none => .ok fields
      | some rest => putSpelled l (l.parts delimiter rest) entry.2 fields) []

def plainField (l : Lookup) (layer : Layer) (field : String) : Option Value :=
  (layer.get? (l.name field)).map l.plain

def objectField (l : Lookup) (layer : Layer) (field : String) : Except GroupError (Option Value) := do
  let name := l.name field
  match layer.get? name with
  | none =>
    let spelled ← spelledOut l layer name
    return if spelled.isEmpty then none else some (.object spelled)
  | some text =>
    if l.nothing = some text then return some .null
    match ← readJson field layer.source text with
    | .null => return none
    | .object fields => return some (merge (.object (← spelledOut l layer name)) (.object fields))
    | value => return some value

structure Shape where
  plain : List String
  objects : List String

def layerFields (l : Lookup) (shape : Shape) (layer : Layer) : Except GroupError Fields := do
  if l.mark.isNone then throw (.unavailable ((shape.plain ++ shape.objects).headD "") layer.source)
  let plain : Fields := shape.plain.filterMap fun field =>
    (plainField l layer field).map fun value => (.text field, value)
  let objects ← shape.objects.filterMapM fun field => do
    return (← objectField l layer field).map fun value => (Key.text field, value)
  return plain ++ objects

/-! ## Directories of secrets -/

def secretDirectories (l : Lookup) (files : Files) : Except GroupError (List Path) := do
  let paths ← (pathsOf l.secretPaths).mapError .badKeyword
  let paths ← paths.mapM fun path => path.mapError .badKeyword
  let present ← paths.filterM fun path => (files.has path).mapError (.file · path)
  if ← present.anyM fun path => (files.isFile path).mapError (.file · path) then throw .secretsFile
  return present

def secretOf (l : Lookup) (files : Files) (directories : List Path) (field : String) :
    Except GroupError (Option String) :=
  let found := (directories.flatMap files.filesIn).reverse
  match found.find? fun entry => l.form entry.1 == l.name field with
  | none => .ok none
  | some (_, data) => match Utf8.decode data with
    | .ok text => .ok (some (String.ofList (Text.trim (Text.universalNewlines text.toList))))
    | .error _ => .error (.unavailable field .secrets)

def secretFields (l : Lookup) (shape : Shape) (files : Files) : Except GroupError Fields := do
  let directories ← secretDirectories l files
  let plain ← shape.plain.filterMapM fun field => do
    return (← secretOf l files directories field).map fun text => (Key.text field, Value.text text)
  let objects ← shape.objects.filterMapM fun field => do
    match ← secretOf l files directories field with
    | none => return none
    | some text => match ← readJson field .secrets text with
      | .null => return none
      | value => return some (Key.text field, value)
  return plain ++ objects

/-! ## Groups -/

def keyword? (keywords : Fields) (name : String) : Option Value :=
  (List.find? (fun field => match field.1 with
    | .text s => Environment.sameName s name
    | _ => false) keywords).map Prod.snd

def keywordFields (shape : Shape) (keywords : Fields) : Fields :=
  (shape.plain ++ shape.objects).filterMap fun field =>
    (keyword? keywords field).map fun value => (.text field, value)

def checkArguments (l : Lookup) : Except GroupError Unit :=
  match l.arguments with
  | .null | .flag _ | .list _ => .ok ()
  | .int 0 => .ok ()
  | v => .error (.notArguments v.kind)

def layered (files : Files) (env : Environment) (mark : String) (shape : Shape) (keywords : Fields) :
    Except GroupError Fields := do
  let l ← (Lookup.ofKeywords mark keywords).mapError .badKeyword
  let assigned ← dotEnvLayer l files env
  checkArguments l
  let upper ← layerFields l shape (environmentLayer l env)
  let middle ← layerFields l shape assigned
  let lower ← secretFields l shape files
  return [upper, middle, lower].foldl mergeFields (keywordFields shape keywords)

end PluginKit.Settings
