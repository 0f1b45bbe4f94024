import PluginKit.Command.Basic
import PluginKit.Console.Table
import PluginKit.Log.Logger
import PluginKit.Plugin.Source
import PluginKit.Plugin.Verify
import PluginKit.Release.Client
import PluginKit.Settings.Load
import PluginKit.Text.Lines

/-!
Running the commands. A run reads and writes the files of a working directory, asks a server, prints
to one console, and ends with an exit code or with a failure that nothing takes care of.
-/

namespace PluginKit.Command

def version : String := "0.9.0"

def helpText : String :=
  "Usage: [--debug] [--version] plugin verify|info|format, release notes\n"

/-! ## Endings -/

inductive Failure where
  | settings (error : Settings.Error)
  | plugin (error : PluginError)
  | source (fault : SourceFault)
  | package (fault : Package.Fault)
  | badConfig (faults : List Schema.Fault)
  | markup (fault : Markup.Fault)
  | log (error : Log.Error)
  | client (fault : ClientFault)
  | fetch (error : FetchError)
  | file (fault : FileFault) (path : Path)
  | undecodable (fault : Utf8.Fault)
  | unencodable (fault : Utf8.EncodeFault)
  | unprintable (fault : Utf8.EncodeFault)
  | noFields (kind : String)

def Failure.message : Failure → String
  | .settings error => error.message
  | .plugin error => error.message
  | .source fault => fault.message
  | .package fault => fault.message
  | .badConfig _ => "invalid configuration"
  | .markup fault => fault.message
  | .log error => error.message
  | .client fault => fault.message
  | .fetch error => error.message
  | .file fault path => fault.message path
  | .undecodable fault => fault.message
  | .unencodable fault => fault.message
  | .unprintable fault => fault.message ++
      "\n*** You may need to add PYTHONIOENCODING=utf-8 to your environment ***"
  | .noFields kind => "'" ++ kind ++ "' object has no attribute 'items'"

inductive Stop where
  | exit (code : Nat)
  | failure (cause : Failure)

/-! ## The surroundings of a command -/

structure Tools (σ : Type) where
  engine : Engine σ
  patience : Nat
  pageLimit : Nat
  env : Environment

structure Shell (ρ : Type) where
  width : Nat
  exchange : Exchange ρ
  logger : Log.Logger
  files : Files
  output : String

abbrev Run (ρ : Type) := ExceptT Stop (StateM (Shell ρ))

variable {σ ρ : Type}

def fail {α : Type} (cause : Failure) : Run ρ α := throw (.failure cause)

def echo (text : String) : Run ρ Unit := modify fun s => { s with output := s.output ++ text }

def deliver (text : String) : Run ρ Unit :=
  let shown := Text.withoutSequences text
  match Utf8.encodeFault? shown with
  | some fault => fail (.unencodable fault)
  | none => echo shown

def print (lines : List String) : Run ρ Unit :=
  let shown := String.join (lines.map (· ++ "\n"))
  match Utf8.encodeFault? shown with
  | some fault => fail (.unprintable fault)
  | none => echo shown

def printStyled (lines : Except Markup.Fault (List String)) : Run ρ Unit :=
  match lines with
  | .ok found => print found
  | .error fault => fail (.markup fault)

def giveUp {α : Type} (message details : String) : Run ρ α := do
  printStyled (Console.say .error message (some details))
  throw (.exit 1)

def onLogging (action : Log.Logging.Act Unit) : Run ρ Unit := do
  let s ← get
  let (result, after) := action.run ⟨s.width, s.logger, s.files, [], []⟩
  set { s with logger := after.logger, files := after.files }
  print after.screen
  match result with
  | .ok _ => pure ()
  | .error error => fail (.log error)

def logAll (records : List Log.Record) : Run ρ Unit := records.forM fun r => onLogging (Log.Logging.accept r)

def happen (event : ExchangeEvent) : Run ρ Unit :=
  match event with
  | .request r => modify fun s => { s with exchange := s.exchange.add (.request r) }
  | .record r => onLogging (Log.Logging.accept r)

/-! ## Plugins -/

def isReported : PluginError → Bool
  | .load _ | .call _ _ | .badInfo _ | .rejected _ _ | .unexpectedCode _ _ | .noOverride _ => true
  | _ => false

def report {α : Type} (headline : String) (error : PluginError) : Run ρ α :=
  if isReported error then giveUp headline error.message else fail (.plugin error)

def missingHeadline : String := "Plugin module not found"

def isFile (path : Path) : Run ρ Bool := do
  match (← get).files.isFile path with
  | .ok found => return found
  | .error fault => fail (.file fault path)

def pluginPath (settings : Settings) (path : Option String) : Run ρ Path := do
  let files := (← get).files
  match path with
  | some text =>
    let p := Path.ofString text
    if ← isFile p then return p else giveUp missingHeadline p.text
  | none => match Package.path files settings.plugin with
    | .ok p => return p
    | .error (.missing p) => giveUp missingHeadline (Package.Fault.message (.missing p))
    | .error fault => fail (.package fault)

def onFormatter {α : Type} (headline : String) (op : Formatter.Op σ α) (f : Formatter σ) :
    Run ρ (α × Formatter σ) := do
  let (result, after) := op.run f
  logAll after.plugin.journal
  match result with
  | .ok a => return (a, Verify.clear after)
  | .error error => report headline error

def configFields (s : FormatSettings) : Fields :=
  let orNull := fun {α : Type} (make : α → Value) (v : Option α) => (v.map make).getD .null
  Fields.named [("line_width", orNull .int s.lineWidth), ("indent_width", orNull .int s.indentWidth),
    ("use_tabs", orNull .flag s.useTabs), ("new_line_kind", orNull .text s.newLineKind)]

def configured (tools : Tools σ) (settings : Settings) (headline : String) (path : Path) :
    Run ρ (Formatter σ) := do
  let (loaded, journal) :=
    Formatter.loadSource tools.engine tools.patience (← get).files (.path path)
  logAll journal
  match loaded with
  | .error (.source fault) => fail (.source fault)
  | .error (.plugin error) => report headline error
  | .ok f => match GlobalConfig.ofFields (configFields settings.format) with
    | .invalid faults => fail (.badConfig faults)
    | .valid config =>
      let plugin := Value.object settings.format.pluginConfig
      return (← onFormatter headline (Formatter.setConfig (.config config) plugin)
        (Verify.clear f)).2

def readBytes (path : Path) : Run ρ (List UInt8) := do
  match (← get).files.read path with
  | .ok data => return data
  | .error fault => fail (.file fault path)

def writeText (path : Path) (text : String) : Run ρ Unit := do
  let data := Utf8.encodeStrict text
  match (← get).files.write path (data.toOption.getD []) with
  | .ok files => modify fun s => { s with files := files }
  | .error fault => fail (.file fault path)
  match data with
  | .ok _ => pure ()
  | .error fault => fail (.unencodable fault)

/-! ## Commands -/

def pluginIcon : String := "🧩"
def fileIcon : String := "📄"
def gearIcon : String := "⚙️"

def outputsTable (r : VerificationReport) : Console.Table where
  title := some "Outputs"
  columns := ["File", "Input", "Load / Shape", "Output"].map fun name => ⟨name, false⟩
  rows := r.results.flatMap fun result => result.outputs.map fun (label, output) =>
    [result.case.path, Text.quoted result.case.text, label, Text.quoted output]
  showHeader := true
  showLines := false
  expand := false
  box := some Console.roundedBox

def runVerify (tools : Tools σ) (settings : Settings) (path : Option String) : Run ρ Unit := do
  let p ← pluginPath settings path
  print (Console.header (← get).width "Plugin Verification" (some p.text) (some pluginIcon))
  let data ← readBytes p
  let (result, journal) :=
    Verify.plugin tools.engine tools.patience (← get).files data p Verify.defaultCases
  logAll journal
  match result with
  | .error (.load (.source fault)) => fail (.source fault)
  | .error (.load (.plugin error)) => report "Plugin error" error
  | .error (.plugin error) => report "Plugin error" error
  | .error complaint => giveUp "Verification failed" complaint.message
  | .ok r =>
    printStyled (Console.say .success (r.pluginName ++ " [version]" ++ r.pluginVersion ++
      "[/version] (schema " ++ toString r.schema ++ ")") none)
    printStyled ((outputsTable r).lines (← get).width)
    printStyled (Console.say .success "Buffer and path loads are equivalent" none)

def nonEmpty (s : String) : Option String := if s.isEmpty then none else some s

def infoPairs (schema : Nat) (i : PluginInfo) : List (String × Option String) :=
  [("Schema version", some (toString schema)), ("Config key", some i.configKey),
    ("Extensions", nonEmpty (", ".intercalate i.fileExtensions)),
    ("File names", nonEmpty (", ".intercalate i.fileNames)), ("Help", nonEmpty i.helpUrl),
    ("Config schema", nonEmpty i.configSchemaUrl), ("Update URL", i.updateUrl)]

def resolvedPairs (v : Value) : Run ρ (List (String × Option String)) :=
  match v with
  | .object fields => return fields.map fun (key, value) =>
      (match key with | .text s => s | k => k.literal, if value.isNull then none else some value.display)
  | v => fail (.noFields v.kind)

def describe : Formatter.Op σ (PluginInfo × List Diagnostic × Value) := do
  let i ← Formatter.info
  let diagnostics ← Formatter.diagnostics
  return (i, diagnostics, ← Formatter.resolvedConfig)

def runInfo (tools : Tools σ) (settings : Settings) (path : Option String) (license : Bool) :
    Run ρ Unit := do
  let headline := "Plugin error"
  let p ← pluginPath settings path
  let f ← configured tools settings headline p
  let ((i, diagnostics, resolved), f) ← onFormatter headline describe f
  print (Console.header (← get).width i.name (some ("v" ++ i.version)) (some pluginIcon))
  printStyled ((Console.Table.ofPairs none (infoPairs f.schema i)).lines (← get).width)
  printStyled (Console.sectionRule (← get).width "Resolved Config" (some gearIcon))
  printStyled ((Console.Table.ofPairs none (← resolvedPairs resolved)).lines (← get).width)
  if !diagnostics.isEmpty then
    printStyled (Console.sectionRule (← get).width "Config Diagnostics"
      (some Console.Mood.warning.icon))
    diagnostics.forM fun d => printStyled (Console.say .warning d.text none)
  if license then
    printStyled (Console.sectionRule (← get).width "License" (some fileIcon))
    let (result, after) := Formatter.license.run f
    logAll after.plugin.journal
    match result with
    | .ok text => print (Console.toTexts (Console.textLines (Text.withEmojis text.toList)))
    | .error error => fail (.plugin error)
  if !diagnostics.isEmpty then throw (.exit 1)

def runFormat (tools : Tools σ) (settings : Settings) (file : String) (path : Option String)
    (write : Bool) : Run ρ Unit := do
  let headline := "Format failed"
  let target := Path.ofString file
  if !(← isFile target) then giveUp "File not found" target.text
  let p ← pluginPath settings path
  match Utf8.decode (← readBytes target) with
  | .error fault => fail (.undecodable fault)
  | .ok raw =>
    let text := String.ofList (Text.universalNewlines raw.toList)
    let f ← configured tools settings headline p
    let (result, _) ← onFormatter headline
      (Formatter.format (.value (.text target.text)) (.text text) .null) f
    if !write then deliver result
    else if result = text then
      printStyled (Console.say .success ("[path]" ++ target.text ++ "[/path] already formatted") none)
    else
      writeText target result
      printStyled (Console.say .success ("Formatted [path]" ++ target.text ++ "[/path]") none)

def runNotes (tools : Tools σ) (settings : Settings) (release : String) (output : Option String) :
    Run ρ Unit := do
  let server := settings.github
  match Client.create (.text server.repo) (.text server.token) (.text server.apiUrl) (.text server.branch) with
  | .error fault => fail (.client fault)
  | .ok client =>
    let s ← get
    let (result, after) := (Fetch.notes client tools.pageLimit (.text release) settings.release).run
      { s.exchange with events := [] }
    set { s with exchange := { after with events := s.exchange.events } }
    after.events.forM happen
    match result with
    | .error (.changeLog error) => giveUp "Changelog generation failed" error.message
    | .error error => fail (.fetch error)
    | .ok text => match output with
      | none => deliver (text ++ "\n")
      | some place =>
        let p := Path.ofString place
        writeText p text
        printStyled (Console.say .success ("Release notes written to [path]" ++ p.text ++ "[/path]") none)

def perform (tools : Tools σ) (settings : Settings) : Command → Run ρ Unit
  | .verify path => runVerify tools settings path
  | .info path license => runInfo tools settings path license
  | .format file path write => runFormat tools settings file path write
  | .notes release output => runNotes tools settings release output

/-! ## Whole runs -/

def prepare (tools : Tools σ) (debug : Bool) : Run ρ Settings := do
  let s ← get
  let (loaded, records) := (Settings.load s.files tools.env none).run []
  logAll records
  match loaded with
  | .error error => fail (.settings error)
  | .ok settings =>
    let level := if debug || settings.debug then Log.debugLevel else Log.warningLevel
    onLogging (Log.Logging.configure { Log.Setup.default with level := level })
    return settings

def run (tools : Tools σ) (words : List String) : Run ρ Unit := do
  match Opening.ofWords words with
  | .usage => throw (.exit 2)
  | .help => echo helpText
  | .version => echo (version ++ "\n")
  | .run debug group rest =>
    let settings ← prepare tools debug
    match Request.ofWords group rest with
    | .usage => throw (.exit 2)
    | .help => echo helpText
    | .run command => perform tools settings command

structure Outcome (ρ : Type) where
  code : Nat
  failure : Option Failure
  shell : Shell ρ

/-- Runs a command line. A failure that escapes counts as exit code 1. -/
def execute (tools : Tools σ) (words : List String) (shell : Shell ρ) : Outcome ρ :=
  match (run tools words).run shell with
  | (.ok _, after) => ⟨0, none, after⟩
  | (.error (.exit code), after) => ⟨code, none, after⟩
  | (.error (.failure cause), after) => ⟨1, some cause, after⟩

def Shell.start (width : Nat) (server : Server ρ) (state : ρ) (files : Files) : Shell ρ :=
  ⟨width, ⟨server, state, []⟩, Log.Logger.start, files, ""⟩

end PluginKit.Command
