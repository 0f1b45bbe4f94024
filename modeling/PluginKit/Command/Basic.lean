import PluginKit.Command.Options

/-!
The commands of the kit and how they are written. The words up to the name of a group are read before
anything happens; those after it only when the settings are loaded.
-/

namespace PluginKit

inductive Command where
  | verify (path : Option String)
  | info (path : Option String) (license : Bool)
  | format (file : String) (path : Option String) (write : Bool)
  | notes (version : String) (output : Option String)
  deriving DecidableEq

namespace Command

inductive Group where
  | plugin
  | release
  deriving DecidableEq

def Group.ofName? : String → Option Group
  | "plugin" => some .plugin
  | "release" => some .release
  | _ => none

inductive Opening where
  | usage
  | help
  | version
  | run (debug : Bool) (group : Group) (rest : List String)
  deriving DecidableEq

inductive Request where
  | usage
  | help
  | run (command : Command)
  deriving DecidableEq

def flagOption (name : String) (names : List String) : OptionSpec := ⟨name, names, false⟩

def valueOption (name : String) (names : List String) : OptionSpec := ⟨name, names, true⟩

def helpOption : OptionSpec := flagOption "help" ["--help"]

def rootOptions : List OptionSpec :=
  [flagOption "debug" ["--debug"], flagOption "version" ["--version"], helpOption]

def Opening.ofWords (words : List String) : Opening :=
  match readLine rootOptions false words with
  | none => .usage
  | some given =>
    match given.options.find? fun option => option.1 = "help" || option.1 = "version" with
    | some (name, _) => if name = "help" then .help else .version
    | none => match given.words with
      | [] => .usage
      | name :: rest => match Group.ofName? name with
        | none => .usage
        | some group => .run (given.has "debug") group rest

def pathOption : OptionSpec := valueOption "path" ["--path", "-p"]

def readCommand (specs : List OptionSpec) (words : List String) (build : Given → Option Command) :
    Request :=
  match readLine (helpOption :: specs) true words with
  | none => .usage
  | some given =>
    if given.has "help" then .help
    else match build given with
      | some command => .run command
      | none => .usage

def verifyOf (words : List String) : Request :=
  readCommand [pathOption] words fun given => match given.words with
    | [] => some (.verify (given.value? "path"))
    | _ => none

def infoOf (words : List String) : Request :=
  readCommand [pathOption, flagOption "license" ["--license"]] words fun given =>
    match given.words with
    | [] => some (.info (given.value? "path") (given.has "license"))
    | _ => none

def formatOf (words : List String) : Request :=
  readCommand [pathOption, flagOption "write" ["--write", "-w"]] words fun given =>
    match given.words with
    | [file] => some (.format file (given.value? "path") (given.has "write"))
    | _ => none

def notesOf (words : List String) : Request :=
  readCommand [valueOption "output" ["--output", "-o"]] words fun given =>
    match given.words with
    | [version] => some (.notes version (given.value? "output"))
    | _ => none

def Request.ofWords (group : Group) (words : List String) : Request :=
  match readLine [helpOption] false words with
  | none => .usage
  | some given =>
    if given.has "help" then .help
    else match group, given.words with
      | .plugin, "verify" :: rest => verifyOf rest
      | .plugin, "info" :: rest => infoOf rest
      | .plugin, "format" :: rest => formatOf rest
      | .release, "notes" :: rest => notesOf rest
      | _, _ => .usage

end Command

end PluginKit
