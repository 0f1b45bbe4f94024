/-!
Options on a command line. Long options take their value after an equals sign or from the next word,
short ones may be run together, and two dashes end the options.
-/

namespace PluginKit.Command

structure OptionSpec where
  name : String
  names : List String
  takesValue : Bool

structure Given where
  options : List (String × Option String)
  words : List String
  deriving DecidableEq

namespace Given

def has (given : Given) (name : String) : Bool := given.options.any fun option => option.1 = name

def value? (given : Given) (name : String) : Option String :=
  (given.options.reverse.find? fun option => option.1 = name).bind Prod.snd

def withOptions (options : List (String × Option String)) (given : Given) : Given :=
  { given with options := options ++ given.options }

def withWord (word : String) (given : Given) : Given := { given with words := word :: given.words }

end Given

def specOf? (specs : List OptionSpec) (name : String) : Option OptionSpec :=
  specs.find? fun spec => spec.names.contains name

def cluster (specs : List OptionSpec) :
    List Char → Option (List (String × Option String) × Option String)
  | [] => some ([], none)
  | c :: rest => do
    let spec ← specOf? specs (String.ofList ['-', c])
    if !spec.takesValue then
      let (more, waiting) ← cluster specs rest
      return ((spec.name, none) :: more, waiting)
    else if rest.isEmpty then return ([], some spec.name)
    else return ([(spec.name, some (String.ofList rest))], none)

def long (specs : List OptionSpec) (word : List Char) :
    Option (List (String × Option String) × Option String) := do
  let spec ← specOf? specs (String.ofList (word.takeWhile (· ≠ '=')))
  match word.dropWhile (· ≠ '='), spec.takesValue with
  | [], false => some ([(spec.name, none)], none)
  | [], true => some ([], some spec.name)
  | _ :: _, false => none
  | _ :: value, true => some ([(spec.name, some (String.ofList value))], none)

def readOption (specs : List OptionSpec) (word : List Char) :
    Option (List (String × Option String) × Option String) :=
  match word with
  | '-' :: '-' :: _ => long specs word
  | _ :: letters => cluster specs letters
  | [] => none

def isOption (word : List Char) : Bool := word.head? = some '-' && 1 < word.length

/-- Reads a command line, unless it is wrong. Where words are not `mixed` with options, the first word
ends the options. -/
def readLine (specs : List OptionSpec) (mixed : Bool) : List String → Option Given
  | [] => some ⟨[], []⟩
  | word :: rest =>
    if word = "--" then some ⟨[], rest⟩
    else if isOption word.toList then do
      match ← readOption specs word.toList with
      | (found, none) => return (← readLine specs mixed rest).withOptions found
      | (found, some name) => match rest with
        | [] => none
        | value :: others =>
          return (← readLine specs mixed others).withOptions (found ++ [(name, some value)])
    else if mixed then return (← readLine specs mixed rest).withWord word
    else some ⟨[], word :: rest⟩

end PluginKit.Command
