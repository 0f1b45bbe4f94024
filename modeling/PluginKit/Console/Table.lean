import PluginKit.Console.Page
import PluginKit.Number.Binary64

/-!
Tables: columns as wide as their widest cell, in a box. Cells are styled texts and may have several
lines.
-/

namespace PluginKit.Console

/-! ## Boxes -/

structure BoxLine where
  left : Char
  fill : Char
  divider : Char
  right : Char

structure Box where
  top : BoxLine
  row : BoxLine
  between : BoxLine
  bottom : BoxLine

def roundedBox : Box where
  top := ⟨'╭', '─', '┬', '╮'⟩
  row := ⟨'│', ' ', '│', '│'⟩
  between := ⟨'├', '─', '┼', '┤'⟩
  bottom := ⟨'╰', '─', '┴', '╯'⟩

def clearBox : Box :=
  let line : BoxLine := ⟨' ', ' ', ' ', ' '⟩
  ⟨line, line, line, line⟩

def BoxLine.across (line : BoxLine) (widths : List Nat) : List Char :=
  line.left :: (List.intercalate [line.divider] (widths.map fun w => List.replicate w line.fill))
    ++ [line.right]

/-! ## Tables -/

structure Column where
  header : String
  -- Keeps its width when the table has to be narrowed.
  rigid : Bool

structure Table where
  title : Option String
  columns : List Column
  rows : List (List String)
  showHeader : Bool
  showLines : Bool
  expand : Bool
  box : Option Box

namespace Table

abbrev Cell := List (List Char)

def cellOf (s : String) : Except Markup.Fault Cell := (Markup.plain s.toList).map textLines

def columnCount (t : Table) : Nat := t.rows.foldl (fun n row => max n row.length) t.columns.length

def columnAt (t : Table) (j : Nat) : Column := (t.columns[j]?).getD ⟨"", false⟩

def columnTexts (t : Table) (j : Nat) : List String :=
  let cells := t.rows.map fun row => (row[j]?).getD ""
  if t.showHeader then (t.columnAt j).header :: cells else cells

structure Filled where
  rigid : Bool
  cells : List Cell

def filled (t : Table) : Except Markup.Fault (List Filled) :=
  (List.range t.columnCount).mapM fun j => do
    return ⟨(t.columnAt j).rigid, ← (t.columnTexts j).mapM cellOf⟩

def padding : Nat := 1

def cellWidth (cell : Cell) : Nat :=
  cell.foldl (fun n line => max n (Text.cellWidth line)) 0 + 2 * padding

def Filled.width (column : Filled) (available : Nat) : Nat :=
  match column.cells with
  | [] => available
  | cells => min available (cells.foldl (fun n cell => max n (cellWidth cell)) 0)

def reduce (amount most : Nat) : List (Bool × Nat) → List Nat
  | [] => []
  | (false, value) :: rest => value :: reduce amount most rest
  | (true, value) :: rest =>
    let sharers := 1 + (rest.filter Prod.fst).length
    let share := min most (Binary64.roundedQuotient amount sharers)
    (value - share) :: reduce (amount - share) most rest

def total (widths : List Nat) : Nat := widths.foldr (· + ·) 0

/-- Narrows the widest columns that can be narrowed, step by step, until the table fits. -/
def collapse (available : Nat) : Nat → List (Bool × Nat) → List Nat
  | 0, columns => columns.map Prod.snd
  | steps + 1, columns =>
    let width := total (columns.map Prod.snd)
    let soft := (columns.filter fun c => !c.1).map Prod.snd
    let widest := soft.foldl max 0
    let second := (soft.filter (· ≠ widest)).foldl max 0
    if width ≤ available || soft.isEmpty || widest = second then columns.map Prod.snd
    else
      let most := min (width - available) (widest - second)
      let narrowed := reduce (width - available) most
        (columns.map fun (rigid, w) => (!rigid && w = widest, w))
      collapse available steps ((columns.map Prod.fst).zip narrowed)

def distribute (amount : Nat) : List Nat → List Nat
  | [] => []
  | w :: rest =>
    let whole := w + total rest
    let share := if whole = 0 then amount else (w * amount + whole - 1) / whole
    (w + share) :: distribute (amount - share) rest

def widths (available : Nat) (expand : Bool) (columns : List Filled) : List Nat :=
  let wanted := columns.map fun c => max 1 (c.width available)
  let fitting :=
    if total wanted ≤ available then wanted
    else
      let narrowed := collapse available (total wanted + 1) ((columns.map Filled.rigid).zip wanted)
      (columns.zip narrowed).map fun (c, w) => c.width w
  if expand && total fitting < available then distribute (available - total fitting) fitting else fitting

def rowLines (box : Option Box) (widths : List Nat) (cells : List Cell) : List (List Char) :=
  let height := cells.foldl (fun n cell => max n cell.length) 1
  (List.range height).map fun i =>
    let parts := (widths.zip cells).map fun (w, cell) =>
      blanks padding ++ padded (w - 2 * padding) ((cell[i]?).getD []) ++ blanks padding
    match box with
    | some b => b.row.left :: List.intercalate [b.row.divider] parts ++ [b.row.right]
    | none => parts.flatten

def boxWidth (t : Table) : Nat := if t.box.isSome then 2 + (t.columnCount - 1) else 0

def lines (width : Nat) (t : Table) : Except Markup.Fault (List String) := do
  if t.columnCount = 0 then return [""]
  let columns ← t.filled
  let found := widths (width - t.boxWidth) t.expand columns
  let title ← match t.title with
    | some s => if s.isEmpty then pure [] else cellOf s
    | none => pure []
  let rowCount := t.rows.length + if t.showHeader then 1 else 0
  let rows := (List.range rowCount).map fun i =>
    rowLines t.box found (columns.map fun c => (c.cells[i]?).getD [])
  let line := fun (part : Box → BoxLine) => (t.box.map fun b => (part b).across found).toList
  let rule := line Box.between
  let (head, body) := if t.showHeader then (rows.take 1 ++ [rule], rows.drop 1) else ([], rows)
  let body := if t.showLines then body.intersperse rule else body
  return toTexts (title.map (centred (total found + t.boxWidth)) ++ line Box.top
    ++ (head ++ body).flatten ++ line Box.bottom)

def ofPairs (title : Option String) (pairs : List (String × Option String)) : Table where
  title := title
  columns := [⟨"Key", true⟩, ⟨"Value", false⟩]
  rows := pairs.map fun (key, value) => [key, value.getD "[dim]N/A[/dim]"]
  showHeader := false
  showLines := false
  expand := false
  box := some clearBox

end Table

end PluginKit.Console
