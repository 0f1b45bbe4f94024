import PluginKit.Command.Run
import PluginKit.Script.Machine

/-!
The command line. It reads the files and variables that a command may need, runs the command, prints
what it printed and writes the files that it changed. Plugins are scripted modules, and there is no
network: every server is out of reach.
-/

namespace PluginKit.Main

def variableNames : List String :=
  ["PLUGIN", "PLUGIN_WASM_PATH", "FORMAT", "FORMAT_LINE_WIDTH", "FORMAT_INDENT_WIDTH",
    "FORMAT_USE_TABS", "FORMAT_NEW_LINE_KIND", "FORMAT_PLUGIN_CONFIG", "GITHUB", "GITHUB_API_URL",
    "GITHUB_REPO", "GITHUB_BRANCH", "GITHUB_TOKEN", "GITHUB_TIMEOUT", "RELEASE",
    "RELEASE_PLUGIN_URL_BASE", "RELEASE_PLUGIN_NAME", "RELEASE_CONFIG_KEY", "RELEASE_NPM_PACKAGE",
    "DEBUG"]

def readVariables : IO Environment :=
  variableNames.filterMapM fun name => do
    return (← IO.getEnv name).map fun value => (name, Text.held value)

def readEntry? (path : Path) : IO (Option Entry) := do
  try
    return some (.file (← IO.FS.readBinFile path.text).toList)
  catch
    | .inappropriateType .. => return some .directory
    | _ => return none

def addPath (files : Files) (path : Path) : IO Files := do
  match ← readEntry? path with
  | some entry => return files.add path entry
  | none => match ← readEntry? path.parent with
    | some .directory => return files.add path.parent .directory
    | _ => return files

def pathsOf : Command → List String
  | .verify path => path.toList
  | .info path _ => path.toList
  | .format file path _ => file :: path.toList
  | .notes _ output => output.toList

def requestedPaths (words : List String) : List Path :=
  match Command.Opening.ofWords words with
  | .run _ group rest => match Command.Request.ofWords group rest with
    | .run command => (pathsOf command).map Path.ofString
    | _ => []
  | _ => []

def readFiles (env : Environment) (words : List String) : IO Files := do
  let home := Path.ofString (Text.held (← IO.currentDir).toString)
  let named := [Settings.defaultPath, Settings.dotEnvPath] ++ requestedPaths words
  let files ← named.foldlM addPath (Files.within home.segments)
  match ((Settings.load files env none).run []).1 with
  | .ok settings => addPath files settings.plugin.wasmPath
  | .error _ => return files

def writeChanges (before after : Files) : IO Unit := do
  for (place, entry) in after.entries do
    if let .file data := entry then
      let path : Path := ⟨"/", place⟩
      unless (before.read path).toOption == some data do
        IO.FS.writeBinFile path.text ⟨data.toArray⟩

def offline : Server Unit where
  answer _ state := (.connectError "no network", state)

def tools (env : Environment) : Command.Tools Script.State :=
  { engine := Script.engine, patience := 1000, pageLimit := 1000, env := env }

def run (words : List String) : IO UInt32 := do
  let env ← readVariables
  let files ← readFiles env words
  let outcome := Command.execute (tools env) words (Command.Shell.start 80 offline () files)
  (← IO.getStdout).write ⟨(Utf8.encode outcome.shell.output).toArray⟩
  if let some failure := outcome.failure then IO.eprintln failure.message
  if outcome.code = 2 then IO.eprint Command.helpText
  writeChanges files outcome.shell.files
  return outcome.code.toUInt32

end PluginKit.Main

def main (args : List String) : IO UInt32 := PluginKit.Main.run (args.map PluginKit.Text.held)
