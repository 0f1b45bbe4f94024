import PluginKit.Console.Page
import PluginKit.Files
import PluginKit.Log.Record
import PluginKit.Log.Template
import PluginKit.Signature
import PluginKit.Text.Utf8

/-!
The logger of the package: its level, the handlers that write its records down, and blocks that change
the level for a while. Records of other loggers pass it by. Every record that is not dropped goes on
to the root in the end.
-/

namespace PluginKit.Log

/-! ## Handlers -/

inductive Target where
  -- Styled lines on the console. The time is shown once, as long as it stays the same.
  | console (showTime : Bool) (timeShown : Bool)
  | stream
  | file (path : Path)
  deriving DecidableEq

structure Handler where
  target : Target
  level : Level
  deriving DecidableEq

structure Logger where
  level : Level
  handlers : List Handler
  closed : List Handler
  deriving DecidableEq

namespace Logger

def start : Logger := ⟨.number 0, [], []⟩

def setLevel (logger : Logger) (level : Level) : Logger := { logger with level := level }

def setLevels (logger : Logger) (level : Level) : Logger :=
  { logger with level := level, handlers := logger.handlers.map fun h => { h with level := level } }

def closeAll (logger : Logger) : Logger :=
  { logger with handlers := [], closed := logger.closed ++ logger.handlers }

def attach (logger : Logger) (h : Handler) : Logger :=
  { logger with handlers := logger.handlers ++ [h] }

/-- Whether a record of a level gets past the logger. A level of zero asks the root, which takes
everything that has a level above zero. -/
def admits (logger : Logger) (level : Level) : Bool :=
  0 < level.value && (logger.level.value = 0 || logger.level.value ≤ level.value)

end Logger

/-! ## Names -/

def rootName : String := "root"

def loggerName (name : Value) : String :=
  if name.isVoid then packageLogger else partLogger name.display

def resolve? (name logger : Value) : Option String :=
  let chosen := if logger.isNull then name else logger
  if chosen.isVoid then some rootName else chosen.text?

def isOfPackage (name : String) : Bool :=
  name = packageLogger || (packageLogger ++ ".").toList.isPrefixOf name.toList

/-! ## Blocks with another level -/

structure Context where
  target : Level
  saved : Option Level
  deriving DecidableEq

namespace Context

def ofLevel (level : Level) : Context := ⟨level, none⟩

def enter (context : Context) (logger : Logger) : Context × Logger :=
  ({ context with saved := some logger.level }, logger.setLevel context.target)

def exit (context : Context) (logger : Logger) : Logger :=
  match context.saved with
  | some level => logger.setLevel level
  | none => logger

end Context

/-! ## Setting up -/

structure Setup where
  level : Level
  console : Bool
  styled : Bool
  showTime : Bool
  -- The file to write to, unless it is void.
  file : Value
  fileLevel : Level

namespace Setup

def default : Setup := ⟨infoLevel, true, true, true, .null, infoLevel⟩

def signature : Signature :=
  ⟨"configure_logging", [], [], ["level", "console", "file_path", "file_log_level", "use_rich",
    "rich_tracebacks", "show_path", "show_time"]⟩

inductive Fault where
  | arguments (fault : Signature.Fault)
  | level (fault : LevelFault)

def flagOr (arguments : List (String × Value)) (name : String) (default : Bool) : Bool :=
  match arguments.lookup name with
  | some value => !value.isVoid
  | none => default

def ofArguments (arguments : List (String × Value)) : Except Fault Setup := do
  match signature.fault? (arguments.map Prod.fst) with
  | some fault => throw (.arguments fault)
  | none => pure ()
  let level ← match arguments.lookup "level" with
    | some value => (Level.ofValue value).mapError .level
    | none => .ok default.level
  let fileLevel ← match arguments.lookup "file_log_level" with
    | some value => if value.isVoid then .ok level else (Level.ofValue value).mapError .level
    | none => .ok level
  return ⟨level, flagOr arguments "console" true, flagOr arguments "use_rich" true,
    flagOr arguments "show_time" true, (arguments.lookup "file_path").getD .null, fileLevel⟩

def consoleHandler? (setup : Setup) : Option Handler :=
  if !setup.console then none
  else if setup.styled then some ⟨.console setup.showTime false, setup.level⟩
  else some ⟨.stream, setup.level⟩

end Setup

/-! ## Logging -/

structure Logging where
  width : Nat
  logger : Logger
  files : Files
  screen : List String
  records : List Record

inductive Error where
  | arguments (fault : Signature.Fault)
  | level (fault : LevelFault)
  | noLevel
  | noName
  | noMessage (kind : String)
  | noPath (kind : String)
  | markup (fault : Markup.Fault)
  | template (fault : TemplateFault)
  | file (fault : FileFault) (path : Path)

def Error.message : Error → String
  | .arguments fault => fault.message
  | .level fault => fault.message
  | .noLevel => "level must be an integer"
  | .noName => "A logger name must be a string"
  | .noMessage kind => "can only concatenate str (not \"" ++ kind ++ "\") to str"
  | .noPath kind => "expected str, bytes or os.PathLike object, not " ++ kind
  | .markup fault => fault.message
  | .template fault => fault.message
  | .file fault path => fault.message path

namespace Logging

abbrev Act := ExceptT Error (StateM Logging)

def start (width : Nat) (files : Files) : Logging := ⟨width, Logger.start, files, [], []⟩

def onLogger (f : Logger → Logger) : Act Unit := modify fun l => { l with logger := f l.logger }

def attempt (path : Path) (result : Except FileFault Files) : Act Unit :=
  match result with
  | .ok files => modify fun l => { l with files := files }
  | .error fault => throw (.file fault path)

def openFile (path : Path) : Act Unit := do
  let files := (← get).files
  match files.find path with
  | .ok (.file _) => pure ()
  | _ => attempt path (files.write path [])

/-- Replaces all handlers. What was done before a failure stays done. -/
def configure (setup : Setup) : Act Unit := do
  onLogger fun logger => (logger.setLevel setup.level).closeAll
  match setup.consoleHandler? with
  | some h => onLogger (·.attach h)
  | none => pure ()
  match setup.file with
  | .text name =>
    if name.isEmpty then return
    let path := Path.ofString name
    attempt path.parent ((← get).files.makeDirectories path.parent)
    openFile path
    onLogger (·.attach ⟨.file path, setup.fileLevel⟩)
  | file => if !file.isVoid then throw (.noPath file.kind)

/-! ## Records -/

def plainLine (r : Record) : String :=
  "1970-01-01 00:00:00,000 - " ++ r.logger ++ " - " ++ levelName r.level ++ " - " ++ r.message

def clock : String := "[00:00:00]"

def levelWidth : Nat := 8

def styledLines (width : Nat) (showTime timeShown : Bool) (level : Level) (message : List Char) :
    List String :=
  let name := (levelName level).toList
  let texts := Console.textLines message
  (List.range texts.length).map fun i =>
    let time := if i = 0 && !timeShown then clock.toList else Console.blanks clock.length
    let start := if showTime then time ++ [' '] else []
    let column := if i = 0 then Console.padded levelWidth name
      else Console.blanks (max levelWidth name.length)
    String.ofList (Console.padded width (start ++ column ++ [' '] ++ (texts[i]?).getD []))

def print (lines : List String) : Act Unit := modify fun l => { l with screen := l.screen ++ lines }

def shown (l : Logging) : List String :=
  l.screen.flatMap fun line => (Text.lines (line.toList ++ ['\n'])).map String.ofList

def write (r : Record) (h : Handler) : Act Handler := do
  match h.target with
  | .console showTime timeShown =>
    match Markup.plain r.message.toList with
    | .error fault => throw (.markup fault)
    | .ok message =>
      print (styledLines (← get).width showTime timeShown r.level message)
      return { h with target := .console showTime true }
  | .stream =>
    print ((Text.splitAt '\n' (plainLine r).toList).map String.ofList)
    return h
  | .file path =>
    let files := (← get).files
    match files.find path with
    | .ok (.file data) => match Utf8.encodeStrict (plainLine r ++ "\n") with
      | .ok line => attempt path (files.write path (data ++ line))
      | .error _ => pure ()
    | .ok .directory => throw (.file .isDirectory path)
    | .error fault => throw (.file fault path)
    return h

def deliver (r : Record) : Nat → List Handler → Act Unit
  | _, [] => pure ()
  | i, h :: rest => do
    if h.level.value ≤ r.level.value then
      let after ← write r h
      onLogger fun logger => { logger with handlers := logger.handlers.set i after }
    deliver r (i + 1) rest

def admits (l : Logging) (logger : String) (level : Level) : Bool :=
  if isOfPackage logger then l.logger.admits level else 0 < level.value

def reachesRoot (level : Level) : Bool := debugLevel.value ≤ level.value

def accept (r : Record) : Act Unit := do
  let l ← get
  if l.admits r.logger r.level then
    if isOfPackage r.logger then deliver r 0 l.logger.handlers
    if reachesRoot r.level then modify fun l => { l with records := l.records ++ [r] }

/-- Whether anybody who cannot bear a bad message hears of a record: plain handlers only drop it. -/
def isHeard (l : Logging) (logger : String) (level : Level) : Bool :=
  reachesRoot level || (isOfPackage logger && l.logger.handlers.any fun h =>
    h.level.value ≤ level.value && match h.target with
      | .console _ _ => true
      | _ => false)

def emit (logger : String) (level : Level) (template : String) (args : List Value) : Act Unit := do
  let l ← get
  if l.admits logger level then
    match format template args with
    | .error fault => if l.isHeard logger level then throw (.template fault)
    | .ok message => accept ⟨logger, level, message⟩

end Logging

/-! ## Messages with a mark -/

inductive Mark where
  | success
  | error
  | warning
  | debug
  deriving DecidableEq

namespace Mark

def level : Mark → Level
  | .success => infoLevel
  | .error => errorLevel
  | .warning => warningLevel
  | .debug => debugLevel

def dress : Mark → String → String
  | .success => successMessage
  | .error => errorMessage
  | .warning => warningMessage
  | .debug => debugMessage

end Mark

def Logging.emitMarked (mark : Mark) (logger : String) (template : String) (args : List Value) :
    Logging.Act Unit :=
  Logging.emit logger mark.level (mark.dress template) args

end PluginKit.Log
