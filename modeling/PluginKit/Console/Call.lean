import PluginKit.Console.Table
import PluginKit.Signature
import PluginKit.Value.Literal
import PluginKit.Value.Mapping

/-!
Printing by name: what to print is named, and its arguments are values of any kind. What cannot be printed
is refused before anything is.
-/

namespace PluginKit.Console

/-! ## Errors -/

inductive Fault where
  | arguments (fault : Signature.Fault)
  | markup (fault : Markup.Fault)
  | style (name : String) (fault : Style.Fault)
  | styleKind (kind : String)
  | unhashable (kind : String)
  | spinner (name : Value)
  | notSearchable (kind : String)
  | notText (kind : String)
  | notIterable (kind : String)
  | noPairs (kind : String)
  | noBox (kind : String)
  | cell (kind : String)
  | header (value : Value)
  | title (value : Value)

namespace Fault

def message : Fault → String
  | .arguments fault => fault.message
  | .markup fault => fault.message
  | .style name fault => match fault.unreadable? with
    | some number => number.message
    | none => "Failed to get style " ++ Text.quoted name ++ "; " ++ fault.message
  | .styleKind kind => "'" ++ kind ++ "' object has no attribute 'strip'"
  | .unhashable kind => "unhashable type: '" ++ kind ++ "'"
  | .spinner name => Text.quoted ("no spinner called " ++ name.literal)
  | .notSearchable kind => "argument of type '" ++ kind ++ "' is not iterable"
  | .notText kind => "expected string or bytes-like object, got '" ++ kind ++ "'"
  | .notIterable kind => "'" ++ kind ++ "' object is not iterable"
  | .noPairs kind => "'" ++ kind ++ "' object has no attribute 'items'"
  | .noBox kind => "'" ++ kind ++ "' object has no attribute 'substitute'"
  | .cell kind => "unable to render " ++ kind ++ "; a string or other renderable object is required"
  | .header value =>
    "Unable to get render width for " ++ value.literal ++
      "; a str, Segment, or object with __rich_console__ method is required"
  | .title value =>
    "Unable to render " ++ value.literal ++
      "; A str, Segment or object with __rich_console__ method is required"

end Fault

abbrev Printing := Except Fault

/-! ## Arguments -/

abbrev Arguments := List (String × Value)

namespace Arguments

def get (arguments : Arguments) (name : String) : Value := (List.lookup name arguments).getD .null

def getD (arguments : Arguments) (name : String) (default : Value) : Value :=
  (List.lookup name arguments).getD default

def text? (arguments : Arguments) (name : String) : Option String :=
  let value := arguments.get name
  if value.isVoid then none else some value.display

end Arguments

def isHashable : Value → Bool
  | .list _ | .object _ | .set _ => false
  | _ => true

def checkStyle (style : Value) : Printing Unit :=
  match style with
  | .text name => match Style.fault? name with
    | some fault => .error (.style name fault)
    | none => .ok ()
  | style => .error (if isHashable style then .styleKind style.kind else .unhashable style.kind)

def checkOptionalStyle (style : Value) : Printing Unit :=
  if style.isVoid then .ok () else checkStyle style

def checkText (value : Value) : Printing String :=
  match value with
  | .text s => .ok s
  | .list _ | .object _ => .error (.notText value.kind)
  | value => .error (.notSearchable value.kind)

def styled {α : Type} (result : Except Markup.Fault α) : Printing α := result.mapError .markup

/-! ## What can be printed -/

def printMessage (mood : Mood) (arguments : Arguments) : Printing (List String) := do
  let given := arguments.get "message"
  let body ← if mood = .error then pure given.display else checkText given
  styled (message mood (arguments.getD "prefix" (.text mood.icon)).display body
    (arguments.text? "details"))

def printHeader (width : Nat) (arguments : Arguments) : Printing (List String) := do
  checkStyle (arguments.getD "style" (.text "header"))
  return header width (arguments.get "title").display (arguments.text? "subtitle")
    (arguments.text? "icon")

def printSection (width : Nat) (arguments : Arguments) : Printing (List String) := do
  let lines ← styled (sectionRule width (arguments.get "title").display (arguments.text? "icon"))
  match checkOptionalStyle (arguments.getD "style" (.text "subheader")) with
  | .error (.style name fault) => if fault.unreadable?.isSome then throw (.style name fault)
  | .error fault => throw fault
  | .ok _ => pure ()
  return lines

def spinners : List String :=
  (Text.Ranges.words [
    "dots dots2 dots3 dots4 dots5 dots6 dots7 dots8 dots9 dots10 dots11 dots12 dots8Bit line line2 pipe",
    "simpleDots simpleDotsScrolling star star2 flip hamburger growVertical growHorizontal balloon",
    "balloon2 noise bounce boxBounce boxBounce2 triangle arc circle squareCorners circleQuarters",
    "circleHalves squish toggle toggle2 toggle3 toggle4 toggle5 toggle6 toggle7 toggle8 toggle9 toggle10",
    "toggle11 toggle12 toggle13 arrow arrow2 arrow3 bouncingBar bouncingBall smiley monkey hearts clock",
    "earth material moon runner pong shark dqpb weather christmas grenade point layer betaWave aesthetic"]).map String.ofList

def printSpinner (arguments : Arguments) : Printing (List String) := do
  let name := arguments.getD "spinner_name" (.text "dots")
  if !isHashable name then throw (.unhashable name.kind)
  if !(name.text?.any spinners.contains) then throw (.spinner name)
  let style := (arguments.getD "style" (.text "info")).display
  let shown := "[" ++ style ++ "]" ++ (arguments.get "message").display ++ "[/" ++ style ++ "]"
  let _ ← styled (Markup.plain shown.toList)
  return []

def titleOf (arguments : Arguments) : Option Value :=
  let value := arguments.get "title"
  if value.isVoid then none else some value

/-- Prints a table whose title may be of any kind; the styles in `first` are looked up before anything is
laid out, and those in `last` afterwards. -/
def printTable (width : Nat) (title : Option Value) (first last : List Value) (t : Table) :
    Printing (List String) := do
  if t.columnCount = 0 then return ← styled (t.lines width)
  first.forM checkOptionalStyle
  let lines ← styled ({ t with title := title.bind Value.text? }.lines width)
  match title with
  | some (.text _) | none => pure ()
  | some value => throw (.title value)
  last.forM checkOptionalStyle
  return lines

def cellText : Value → Printing String
  | .text s => .ok s
  | .null => .ok ""
  | value => .error (.cell value.kind)

def columnsOf (value : Value) : Printing (List Value) :=
  if value.isVoid then .ok []
  else match value.iterate? with
    | some columns => .ok columns
    | none => .error (.notIterable value.kind)

def printGrid (width : Nat) (arguments : Arguments) (rows : List (List Value)) :
    Printing (List String) := do
  let columns ← columnsOf (arguments.get "columns")
  let cells ← rows.mapM fun row => row.mapM cellText
  let showHeader := !(arguments.getD "show_header" (.flag true)).isVoid
  let box := arguments.getD "box_style" (.flag true)
  let isBox := (List.lookup "box_style" arguments).isNone
  let t : Table :=
    { title := none
      columns := columns.map fun column => ⟨column.display, false⟩
      rows := cells
      showHeader := showHeader
      showLines := !(arguments.get "show_lines").isVoid
      expand := !(arguments.get "expand").isVoid
      box := if box.isVoid then none else some roundedBox }
  match columns.find? fun column => column.text?.isNone with
  | some column => if showHeader then throw (.header column)
  | none => pure ()
  let headerStyles := if showHeader then [arguments.getD "header_style" .null] else []
  let lines ← printTable width (titleOf arguments) headerStyles
    [arguments.getD "border_style" .null] t
  if t.columnCount = 0 || box.isVoid || isBox then return lines
  else throw (.noBox box.kind)

def printPairs (width : Nat) (arguments : Arguments) : Printing (List String) :=
  match arguments.get "data" with
  | .object fields =>
    let pairs := fields.map fun (key, value) =>
      ((Value.ofKey key).display, if value.isNull then none else some value.display)
    printTable width (titleOf arguments) [arguments.getD "key_style" .null]
      [arguments.getD "value_style" .null] (Table.ofPairs none pairs)
  | data => .error (.noPairs data.kind)

/-! ## Calls -/

inductive Kind where
  | message (mood : Mood)
  | header
  | sectionRule
  | spinner
  | table
  | pairs
  deriving DecidableEq

namespace Kind

def ofName? : String → Option Kind
  | "success" => some (.message .success)
  | "error" => some (.message .error)
  | "warning" => some (.message .warning)
  | "header" => some .header
  | "section" => some .sectionRule
  | "spinner" => some .spinner
  | "table" => some .table
  | "key_value" => some .pairs
  | _ => none

def signature : Kind → Signature
  | .message mood =>
    let name := match mood with
      | .success => "success"
      | .error => "error"
      | .warning => "warning"
    ⟨"UIHelper." ++ name, ["self"], ["message"], ["details", "prefix"]⟩
  | .header => ⟨"UIHelper.header", ["self"], ["title"], ["subtitle", "icon", "style"]⟩
  | .sectionRule => ⟨"UIHelper.section", ["self"], ["title"], ["icon", "style"]⟩
  | .spinner => ⟨"UIHelper.spinner", ["self"], ["message"], ["spinner_name", "style"]⟩
  | .table => ⟨"UIHelper.create_table", ["self"], [], ["title", "columns", "show_header", "show_lines",
      "box_style", "header_style", "border_style", "expand"]⟩
  | .pairs => ⟨"UIHelper.key_value_table", ["self"], ["data"], ["title", "key_style", "value_style"]⟩

end Kind

def perform (width : Nat) (kind : Kind) (arguments : Arguments) (rows : List (List Value)) :
    Printing (List String) :=
  match kind.signature.fault? (arguments.map Prod.fst) with
  | some fault => .error (.arguments fault)
  | none => match kind with
    | .message mood => printMessage mood arguments
    | .header => printHeader width arguments
    | .sectionRule => printSection width arguments
    | .spinner => printSpinner arguments
    | .table => printGrid width arguments rows
    | .pairs => printPairs width arguments

end PluginKit.Console
