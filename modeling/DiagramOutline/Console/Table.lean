import DiagramOutline.Console.Text
import DiagramOutline.Survey
import DiagramOutline.Text.Digit

/-! # Tables on a console

A table is drawn in a box, a heavy one around its header. Each column is as wide as its widest cell,
and cells are aligned to the left with a space on both sides.

* **`Console.Table`** — the header and the rows.
* **`Console.Table.draw table`** — the lines of a table.
* **`Console.Table.ofSurvey entries`** — the table of blocks and their metadata. -/

namespace DiagramOutline.Console

/-- A **table**: the cells of its header and of each row. -/
structure Table where
  /-- The names of the columns. -/
  header : List Text
  /-- The rows; each has a cell for every column. -/
  rows : List (List Text)
  deriving DecidableEq, Repr

namespace Table

/-- The lines of a **cell**. -/
abbrev Cell : Type := List Text

/-- How many columns of the console the widest line of a cell **takes**. -/
def cellWidth (cell : Cell) : Nat := cell.foldl (fun width line => max width line.length) 0

/-- The **widths** of the columns: of each, that of its widest cell. -/
def widths (header : List Cell) (rows : List (List Cell)) : List Nat :=
  rows.foldl (fun widths row => List.zipWith max widths (row.map cellWidth)) (header.map cellWidth)

/-- A **rule** across a table: a left end, a stroke for each column of the console, a joint between
two columns of the table, and a right end. -/
def rule (left stroke joint right : Char) (widths : List Nat) : Text :=
  left :: List.intercalate [joint] (widths.map fun width => List.replicate (width + 2) stroke) ++
    [right]

/-- One line across the **cells** of a row, between bars. -/
def cellsLine (bar : Char) (widths : List Nat) (cells : List Text) : Text :=
  bar :: List.intercalate [bar]
    (List.zipWith (fun width cell => ' ' :: pad width cell ++ [' ']) widths cells) ++ [bar]

/-- How many lines a row **takes**: as many as its tallest cell. -/
def rowHeight (row : List Cell) : Nat := row.foldl (fun height cell => max height cell.length) 1

/-- The lines of a **row**, between bars. -/
def rowLines (bar : Char) (widths : List Nat) (row : List Cell) : List Text :=
  (List.range (rowHeight row)).map fun index =>
    cellsLine bar widths (row.map fun cell => cell.getD index [])

/-- The **lines** of a table. -/
def draw (table : Table) : List Text :=
  let header := table.header.map displayLines
  let rows := table.rows.map fun row => row.map displayLines
  let widths := widths header rows
  rule '┏' '━' '┳' '┓' widths :: rowLines '┃' widths header ++
    rule '┡' '━' '╇' '┩' widths :: rows.flatMap (rowLines '│' widths) ++
      [rule '└' '─' '┴' '┘' widths]

/-- The mark of a column for something that **may hold**. -/
def mark (holds : Bool) : Text := if holds then "yes".toList else []

/-- The row of a block and its **metadata**. -/
def surveyRow (entry : Survey.Entry) : List Text :=
  [entry.block.name, entry.metadata.category.word, Text.ofNat entry.metadata.shapeCount,
    Text.ofNat entry.metadata.connectionCount, Text.ofNat entry.metadata.nestingDepth,
    mark entry.metadata.hasStyles, mark entry.metadata.hasClasses,
    List.intercalate ", ".toList entry.metadata.topIdentifiers]

/-- The table of **blocks** and their metadata. -/
def ofSurvey (entries : List Survey.Entry) : Table where
  header :=
    ["name", "category", "shapes", "connections", "depth", "styles", "classes", "top"].map
      String.toList
  rows := entries.map surveyRow

end Table

end DiagramOutline.Console
