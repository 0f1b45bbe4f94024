import PluginKit.Text.Lines
import PluginKit.Text.Printable

/-!
Paths and the files they lead to. A path is kept in normal form: empty and `.` segments are dropped, `..` stays, and
the root is kept (two leading slashes are a root of their own, three or more count as one). A place is where a path
leads: the names on the way there from the root. Paths without a root start in the working directory. Operations
answer with the fault that an operating system would report.
-/

namespace PluginKit

structure Path where
  root : String
  segments : List String
  deriving DecidableEq

namespace Path

def ofString (s : String) : Path :=
  let root :=
    if s.startsWith "//" && !s.startsWith "///" then "//"
    else if s.startsWith "/" then "/"
    else ""
  let pieces := (Text.splitAt '/' s.toList).map String.ofList
  ⟨root, pieces.filter fun piece => piece != "" && piece != "."⟩

def text (p : Path) : String :=
  if p.root = "" && p.segments.isEmpty then "."
  else p.root ++ String.intercalate "/" p.segments

def parent (p : Path) : Path := ⟨p.root, p.segments.dropLast⟩

end Path

inductive FileFault where
  | missing
  | isDirectory
  | notDirectory
  | denied
  | occupied
  | tooLong
  | nullByte
  deriving DecidableEq

namespace FileFault

def number : FileFault → Nat
  | .missing => 2
  | .denied => 13
  | .occupied => 17
  | .notDirectory => 20
  | .isDirectory => 21
  | .nullByte => 22
  | .tooLong => 36

def reason : FileFault → String
  | .missing => "No such file or directory"
  | .denied => "Permission denied"
  | .occupied => "File exists"
  | .notDirectory => "Not a directory"
  | .isDirectory => "Is a directory"
  | .nullByte => "embedded null byte"
  | .tooLong => "File name too long"

-- A name with a null byte is refused before the system hears of it.
def message (fault : FileFault) (path : Path) : String :=
  if fault = .nullByte then fault.reason
  else "[Errno " ++ toString fault.number ++ "] " ++ fault.reason ++ ": " ++ Text.quoted path.text

end FileFault

inductive Entry where
  | directory
  | file (data : List UInt8)

/-- The entries of a file system by their places, with the place of the working directory. While `locked`, no file can
be read. -/
structure Files where
  home : List String
  entries : List (List String × Entry)
  locked : Bool

namespace Files

def within (home : List String) : Files := ⟨home, [], false⟩

def empty : Files := within ["home"]

-- The working directory and the directories that it lies in are there without an entry.
def get? (files : Files) (place : List String) : Option Entry :=
  if place.isPrefixOf files.home then some .directory
  else (files.entries.find? fun item => item.1 == place).map Prod.snd

def segmentLimit : Nat := 255

def pathLimit : Nat := 4095

def refusal? (path : Path) : Option FileFault :=
  if path.text.toList.contains (Char.ofNat 0) then some .nullByte
  else if pathLimit < path.text.utf8ByteSize then some .tooLong
  else none

def origin (files : Files) (path : Path) : List String := if path.root = "" then files.home else []

def follow (files : Files) : List String → List String → Except FileFault (List String)
  | place, [] => .ok place
  | place, segment :: rest =>
    match files.get? place with
    | none => .error .missing
    | some (.file _) => .error .notDirectory
    | some .directory =>
      if segment = ".." then files.follow place.dropLast rest
      else if segmentLimit < segment.utf8ByteSize then .error .tooLong
      else files.follow (place ++ [segment]) rest

/-- The place that a path leads to. Something need not be there, but what it would lie in is. -/
def locate (files : Files) (path : Path) : Except FileFault (List String) :=
  match refusal? path with
  | some fault => .error fault
  | none => files.follow (files.origin path) path.segments

def find (files : Files) (path : Path) : Except FileFault Entry :=
  match files.locate path with
  | .error fault => .error fault
  | .ok place => match files.get? place with
    | none => .error .missing
    | some entry => .ok entry

def look (files : Files) (path : Path) : Except FileFault (Option Entry) :=
  match files.find path with
  | .ok entry => .ok (some entry)
  | .error .tooLong => .error .tooLong
  | .error _ => .ok none

def isFile (files : Files) (path : Path) : Except FileFault Bool :=
  (files.look path).map fun
    | some (.file _) => true
    | _ => false

def has (files : Files) (path : Path) : Except FileFault Bool := (files.look path).map Option.isSome

def read (files : Files) (path : Path) : Except FileFault (List UInt8) :=
  match files.find path with
  | .error fault => .error fault
  | .ok .directory => .error .isDirectory
  | .ok (.file data) => if files.locked then .error .denied else .ok data

def put (files : Files) (place : List String) (entry : Entry) : Files :=
  if files.entries.any fun item => item.1 == place then
    { files with
      entries := files.entries.map fun item => if item.1 == place then (place, entry) else item }
  else { files with entries := files.entries ++ [(place, entry)] }

def write (files : Files) (path : Path) (data : List UInt8) : Except FileFault Files :=
  match files.locate path with
  | .error fault => .error fault
  | .ok place => match files.get? place with
    | some .directory => .error .isDirectory
    | _ => .ok (files.put place (.file data))

def makeBelow (files : Files) (place : List String) : List String → Except FileFault Files
  | [] => .ok files
  | segment :: rest =>
    if segment = ".." then files.makeBelow place.dropLast rest
    else if segmentLimit < segment.utf8ByteSize then .error .tooLong
    else
      let next := place ++ [segment]
      match files.get? next with
      | some .directory => files.makeBelow next rest
      | some (.file _) => .error (if rest.isEmpty then .occupied else .notDirectory)
      | none => (files.put next .directory).makeBelow next rest

def makeDirectories (files : Files) (path : Path) : Except FileFault Files :=
  match refusal? path with
  | some fault => .error fault
  | none => files.makeBelow (files.origin path) path.segments

def add (files : Files) (path : Path) (entry : Entry) : Files :=
  match files.makeDirectories path.parent with
  | .error _ => files
  | .ok made => match made.locate path with
    | .error _ => files
    | .ok place => made.put place entry

def filesIn (files : Files) (path : Path) : List (String × List UInt8) :=
  match files.locate path with
  | .error _ => []
  | .ok directory => files.entries.filterMap fun
    | (place, .file data) =>
      if place.dropLast == directory then place.getLast?.map fun name => (name, data) else none
    | _ => none

def list (files : Files) : List (String × List UInt8) :=
  files.entries.filterMap fun
    | (place, .file data) => (files.home.isPrefixOf? place).map fun rest => (String.intercalate "/" rest, data)
    | _ => none

end PluginKit.Files
