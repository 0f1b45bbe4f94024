import PluginKit.Plugin.Source

/-!
Checking a compiled plugin: it is loaded from memory and from a file, and both instances must give the
expected text for every case in both request shapes.
-/

namespace PluginKit

structure VerificationCase where
  path : String
  text : String
  expected : String
  deriving DecidableEq

namespace VerificationCase

open Schema in
def ofFields (fields : Fields) : Checked VerificationCase :=
  VerificationCase.mk
    <$> required ["file_path"] Schema.text fields
    <*> required ["file_text"] Schema.text fields
    <*> required ["expected"] Schema.text fields

def ofValue : Value → Schema.Checked VerificationCase := Schema.record ofFields

def canonical : VerificationCase := ⟨"file.json", "\x7b test: 2, \x7d", "\x7b \"test\": 2 \x7d\n"⟩

def idempotence (case : VerificationCase) : VerificationCase :=
  ⟨case.path, case.expected, case.expected⟩

end VerificationCase

structure CaseResult where
  case : VerificationCase
  outputs : List (String × String)
  deriving DecidableEq

namespace CaseResult

def outputsCheck (v : Value) : Schema.Checked (List (String × String)) :=
  match v with
  | .object fields =>
    fields.foldr (fun field rest =>
      let name := match field.1 with
        | .text s => s
        | key => key.literal
      .both ((Schema.text field.2).under (.field name) |>.map fun s others => (name, s) :: others)
        rest) (.valid [])
  | _ => .fault .mappingType

open Schema in
def ofFields (fields : Fields) : Checked CaseResult :=
  CaseResult.mk
    <$> required ["case"] VerificationCase.ofValue fields
    <*> withDefault [] ["outputs"] outputsCheck fields

def ofValue : Value → Schema.Checked CaseResult := Schema.record ofFields

def passed (r : CaseResult) : Bool :=
  !r.outputs.isEmpty && r.outputs.all fun output => output.2 == r.case.expected

def mismatched (r : CaseResult) : List (String × String) :=
  r.outputs.filter fun output => output.2 != r.case.expected

end CaseResult

structure VerificationReport where
  schema : Int
  pluginName : String
  pluginVersion : String
  results : List CaseResult
  deriving DecidableEq

namespace VerificationReport

open Schema in
def ofFields (fields : Fields) : Checked VerificationReport :=
  VerificationReport.mk
    <$> required ["schema_version"] int fields
    <*> required ["plugin_name"] Schema.text fields
    <*> required ["plugin_version"] Schema.text fields
    <*> withDefault [] ["results"] (list CaseResult.ofValue) fields

def ofValue : Value → Schema.Checked VerificationReport := Schema.record ofFields

def passed (report : VerificationReport) : Bool := report.results.all CaseResult.passed

end VerificationReport

inductive VerifyError where
  | load (error : LoadError)
  | plugin (error : PluginError)
  | schemaDiffers (buffer path : Nat)
  | unexpectedText (case : VerificationCase) (output : String)
  | unexpectedOutputs (case : VerificationCase) (outputs : List (String × String))

def unexpectedMessage (case : VerificationCase) (got : String) : String :=
  "Unexpected output for " ++ case.path ++ ": expected " ++ Text.quoted case.expected ++ ", got " ++ got

def labelledText (outputs : List (String × String)) : String :=
  (Value.record (outputs.map fun output => (output.1, .text output.2))).literal

def VerifyError.message : VerifyError → String
  | .load (.source fault) => fault.message
  | .load (.plugin error) => error.message
  | .plugin error => error.message
  | .schemaDiffers buffer path =>
    "Schema version differs: buffer=" ++ toString buffer ++ ", path=" ++ toString path
  | .unexpectedText case output => unexpectedMessage case (Text.quoted output)
  | .unexpectedOutputs case outputs => unexpectedMessage case (labelledText outputs)

namespace Verify

variable {σ : Type}

def logger : String := Log.partLogger "plugin.harness"

/-! ## One formatter -/

def formatter (case : VerificationCase) (f : Formatter σ) : Except VerifyError String × Formatter σ :=
  match Formatter.format (.path case.path) (.text case.text) .null f with
  | (.error error, after) => (.error (.plugin error), after)
  | (.ok output, after) =>
    if output = case.expected then (.ok output, after)
    else (.error (.unexpectedText case output), after)

def idempotent (case : VerificationCase) (f : Formatter σ) : Except VerifyError String × Formatter σ :=
  formatter case.idempotence f

/-! ## A module, loaded twice -/

structure Pair (σ : Type) where
  buffer : Formatter σ
  path : Formatter σ

abbrev Run (σ : Type) := ExceptT VerifyError (StateM (Pair σ × List Log.Record))

def onBuffer {α : Type} (op : Formatter.Op σ α) : Run σ α := fun (pair, log) =>
  let (result, after) := op pair.buffer
  let journal := after.plugin.journal
  let cleared := { after with plugin := { after.plugin with journal := [] } }
  (result.mapError .plugin, ({ pair with buffer := cleared }, log ++ journal))

def onPath {α : Type} (op : Formatter.Op σ α) : Run σ α := fun (pair, log) =>
  let (result, after) := op pair.path
  let journal := after.plugin.journal
  let cleared := { after with plugin := { after.plugin with journal := [] } }
  (result.mapError .plugin, ({ pair with path := cleared }, log ++ journal))

def record (level : Log.Level) (message : String) : Run σ Unit :=
  modify fun (pair, log) => (pair, log ++ [⟨logger, level, message⟩])

def positional (case : VerificationCase) : Formatter.Op σ String :=
  Formatter.format (.path case.path) (.text case.text) .null

def structured (case : VerificationCase) : Formatter.Op σ String :=
  Formatter.format
    (.value (.record [("filePath", .text case.path), ("fileText", .text case.text)])) .null .null

def runCase (case : VerificationCase) : Run σ CaseResult := do
  let bufferPositional ← onBuffer (positional case)
  let bufferStructured ← onBuffer (structured case)
  let pathPositional ← onPath (positional case)
  let pathStructured ← onPath (structured case)
  let result : CaseResult := ⟨case,
    [("buffer:positional", bufferPositional), ("buffer:structured", bufferStructured),
      ("path:positional", pathPositional), ("path:structured", pathStructured)]⟩
  if result.passed then
    record Log.infoLevel (Log.successMessage
      ("Verified " ++ case.path ++ " (" ++ toString result.outputs.length ++ " outputs)"))
    pure result
  else
    record Log.errorLevel (Log.errorMessage ("Verification failed for " ++ case.path))
    throw (.unexpectedOutputs case result.mismatched)

def runCases : List VerificationCase → Run σ (List CaseResult)
  | [] => pure []
  | case :: rest => do
    let result ← runCase case
    return result :: (← runCases rest)

def runPair (cases : List VerificationCase) : Run σ VerificationReport := do
  let (pair, _) ← get
  if pair.buffer.schema ≠ pair.path.schema then
    throw (.schemaDiffers pair.buffer.schema pair.path.schema)
  let info ← onBuffer Formatter.info
  let results ← runCases cases
  return ⟨pair.buffer.schema, info.name, info.version, results⟩

def defaultCases : List VerificationCase :=
  [VerificationCase.canonical, VerificationCase.canonical.idempotence]

def clear (f : Formatter σ) : Formatter σ := { f with plugin := { f.plugin with journal := [] } }

def plugin (engine : Engine σ) (patience : Nat) (files : Files) (data : List UInt8) (path : Path)
    (cases : List VerificationCase) : Except VerifyError VerificationReport × List Log.Record :=
  match Formatter.loadSource engine patience files (.buffer data) with
  | (.error error, journal) => (.error (.load error), journal)
  | (.ok buffer, bufferJournal) =>
    match Formatter.loadSource engine patience files (.path path) with
    | (.error error, journal) => (.error (.load error), bufferJournal ++ journal)
    | (.ok path, pathJournal) =>
      let (result, (_, journal)) :=
        runPair cases (⟨clear buffer, clear path⟩, bufferJournal ++ pathJournal)
      (result, journal)

end Verify

end PluginKit
