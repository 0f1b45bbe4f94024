import PluginKit.Value.Basic

/-!
Log records: who speaks, how important it is, and what is said. A level is a number; a flag given as a level counts as
its number.
-/

namespace PluginKit.Log

inductive Level where
  | number (n : Int)
  | flag (b : Bool)
  deriving DecidableEq

namespace Level

def value : Level → Int
  | .number n => n
  | .flag b => if b then 1 else 0

def text : Level → String
  | .number n => toString n
  | .flag b => if b then "True" else "False"

def named : List (String × Int) :=
  [("debug", 10), ("info", 20), ("warning", 30), ("error", 40), ("critical", 50)]

def ofName (name : String) : Level :=
  .number ((named.lookup (String.ofList (name.toList.map Char.toLower))).getD 20)

end Level

structure LevelFault where
  kind : String
  deriving DecidableEq

def LevelFault.message (fault : LevelFault) : String :=
  "'" ++ fault.kind ++ "' object has no attribute 'lower'"

def Level.ofValue : Value → Except LevelFault Level
  | .int n => .ok (.number n)
  | .flag b => .ok (.flag b)
  | .text s => .ok (Level.ofName s)
  | v => .error ⟨v.kind⟩

/-! ## Records -/

structure Record where
  logger : String
  level : Level
  message : String
  deriving DecidableEq

def debugLevel : Level := .number 10
def infoLevel : Level := .number 20
def warningLevel : Level := .number 30
def errorLevel : Level := .number 40
def criticalLevel : Level := .number 50

def levelName (level : Level) : String :=
  if level = debugLevel then "DEBUG"
  else if level = infoLevel then "INFO"
  else if level = warningLevel then "WARNING"
  else if level = errorLevel then "ERROR"
  else if level = criticalLevel then "CRITICAL"
  else "Level " ++ level.text

def packageLogger : String := "dprint_json"

def partLogger (part : String) : String := packageLogger ++ "." ++ part

/-! Messages of the four moods, marked up for a console. -/

def successMessage (message : String) : String := "[green]✓[/green] " ++ message
def errorMessage (message : String) : String := "[red]✗[/red] " ++ message
def warningMessage (message : String) : String := "[yellow]⚠[/yellow] " ++ message
def debugMessage (message : String) : String := "[dim]" ++ message ++ "[/dim]"

end PluginKit.Log
