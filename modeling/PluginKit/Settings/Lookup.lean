import PluginKit.Files
import PluginKit.Settings.Environment
import PluginKit.Value.Basic

/-!
How a group of settings looks for its variables. Some of the keywords that a group is built with are not
fields but say this: which mark the names of variables start with, what separates the parts of a name, and
which files and directories are searched.
-/

namespace PluginKit.Settings

/-- Why a keyword does not say how to look: the paths are no list, one of them is no path, the mark of names
has no length, the number of parts is no number, the encoding is no name, or the keyword stands for the group
itself. -/
inductive KeywordFault where
  | notPaths (kind : String)
  | notPath (kind : String)
  | noLength (kind : String)
  | notNumber (kind : String)
  | notEncoding (kind : String)
  | itself
  deriving DecidableEq

def itselfName : String := "__pydantic_self__"

def KeywordFault.message : KeywordFault → String
  | .notPaths kind => "'" ++ kind ++ "' object is not iterable"
  | .notPath "bytes" =>
    "argument should be a str object or an os.PathLike object returning str, not <class 'bytes'>"
  | .notPath kind => "expected str, bytes or os.PathLike object, not " ++ kind
  | .noLength kind => "object of type '" ++ kind ++ "' has no len()"
  | .notNumber kind => "unsupported operand type(s) for -: '" ++ kind ++ "' and 'int'"
  | .notEncoding kind => "open() argument 'encoding' must be str or None, not " ++ kind
  | .itself => "BaseSettings.__init__() got multiple values for argument '" ++ itselfName ++ "'"

/-- The mark that names start with, if it can be one; whether the case of names counts; whether empty values
do not count; which value stands for nothing; what separates the parts of a name, and how often a name is
separated at most; which files are searched and how they are encoded; and which directories are. -/
structure Lookup where
  mark : Option String
  exact : Bool := false
  skipsEmpty : Bool := false
  nothing : Option String := none
  delimiter : Option String := none
  splits : Option Nat := none
  envFiles : Value := .null
  encoding : Value := .null
  secretPaths : Value := .null
  arguments : Value := .null

/-! ## Paths -/

def keyPath : Key → Except KeywordFault Path
  | .text s => .ok (Path.ofString s)
  | .int _ => .error (.notPath "int")
  | .float _ => .error (.notPath "float")
  | .flag _ => .error (.notPath "bool")
  | .null => .error (.notPath "NoneType")
  | .date _ => .error (.notPath "datetime.date")
  | .moment _ => .error (.notPath "datetime.datetime")
  | .bytes _ => .error (.notPath "bytes")

def pathOf : Value → Except KeywordFault Path
  | .text s => .ok (Path.ofString s)
  | v => .error (.notPath v.kind)

def pathsOf : Value → Except KeywordFault (List (Except KeywordFault Path))
  | .null => .ok []
  | .text s => .ok [.ok (Path.ofString s)]
  | .list items => .ok (items.map pathOf)
  | .set members => .ok (members.map keyPath)
  | .object fields => .ok (fields.map fun field => keyPath field.1)
  | .bytes data => .ok (data.map fun _ => .error (.notPath "int"))
  | v => .error (.notPaths v.kind)

/-! ## Keywords -/

def markOf (usual : String) : Value → Except KeywordFault (Option String)
  | .null => .ok (some usual)
  | .text s => .ok (some s)
  | .bytes _ | .list _ | .object _ | .set _ | .pair _ _ => .ok none
  | v => .error (.noLength v.kind)

def splitsOf (v : Value) : Except KeywordFault (Option Nat) :=
  if v.isVoid then .ok none
  else match v with
    | .flag _ => .ok (some 0)
    | .int n => .ok (if n ≤ 0 then none else some (n - 1).toNat)
    | .float _ => .ok none
    | v => .error (.notNumber v.kind)

def Lookup.ofKeywords (usual : String) (keywords : Fields) : Except KeywordFault Lookup := do
  let given := fun name => (keywords.get? name).getD .null
  if (keywords.get? itselfName).isSome then throw .itself
  return {
    splits := ← splitsOf (given "_env_nested_max_split")
    mark := ← markOf usual (given "_env_prefix")
    exact := !(given "_case_sensitive").isVoid
    skipsEmpty := !(given "_env_ignore_empty").isVoid
    nothing := (given "_env_parse_none_str").text?
    delimiter := (given "_env_nested_delimiter").text?.filter fun s => !s.isEmpty
    envFiles := given "_env_file"
    encoding := given "_env_file_encoding"
    secretPaths := given "_secrets_dir"
    arguments := given "_cli_parse_args" }

/-! ## Names -/

def Lookup.form (l : Lookup) (name : String) : String :=
  if l.exact then name else Environment.lowerName name

def Lookup.name (l : Lookup) (field : String) : String := l.form (l.mark.getD "" ++ field)

def Lookup.parts (l : Lookup) (delimiter name : String) : List String :=
  let all := name.splitOn delimiter
  match l.splits with
  | none => all
  | some n =>
    if all.length ≤ n + 1 then all else all.take n ++ [String.intercalate delimiter (all.drop n)]

end PluginKit.Settings
