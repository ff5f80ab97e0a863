import CodeGloss.Report.Wrap

/-!
# Tables on a terminal

A grid has rows of cells between rules. A column is as wide as its widest cell or
heading, with a blank on either side. The title stands above, in the middle, in
as many lines as it takes. A grid may do without headings.
-/

namespace CodeGloss.Report

open Text

structure Grid where
  title : List Char
  headings : Option (List (List Char))
  rows : List (List (List Char))

namespace Grid

/-- The characters that end a line of a cell. -/
def endsLine (c : Char) : Bool :=
  ['\n', '\r', '\x0b', '\x0c', '\x1c', '\x1d', '\x1e', '\u0085', '\u2028', '\u2029'].contains c

/-- The cells that the longest line of a text takes. `place` is the width of its
first line so far. -/
def longestLine (place : Nat) : List Char → Nat
  | [] => place
  | c :: rest =>
      if endsLine c then max place (longestLine 0 rest)
      else longestLine (place + displayWidth c) rest

def cellWidth (cell : List Char) : Nat :=
  longestLine 0 cell

/-- The larger of two widths, column by column. -/
def widen : List Nat → List Nat → List Nat
  | [], widths => widths
  | widths, [] => widths
  | a :: rest, b :: others => max a b :: widen rest others

/-- The rows with their headings, if there are any. -/
def allRows (grid : Grid) : List (List (List Char)) :=
  grid.headings.toList ++ grid.rows

/-- The width of each column. -/
def widths (grid : Grid) : List Nat :=
  grid.allRows.foldl (fun widths row => widen widths (row.map cellWidth)) []

/-- The characters of a rule or a row: its ends, what parts the columns, and what
fills them. -/
structure Border where
  left : Char
  fill : Char
  between : Char
  right : Char
  deriving DecidableEq, Repr

def topRule (headed : Bool) : Border :=
  if headed then ⟨'┏', '━', '┳', '┓'⟩ else ⟨'┌', '─', '┬', '┐'⟩

def headRule : Border := ⟨'┡', '━', '╇', '┩'⟩

def bottomRule : Border := ⟨'└', '─', '┴', '┘'⟩

def headRow : Border := ⟨'┃', ' ', '┃', '┃'⟩

def bodyRow : Border := ⟨'│', ' ', '│', '│'⟩

/-- A line of a grid, from what fills its columns. -/
def line (border : Border) (fillings : List (List Char)) : List Char :=
  border.left :: joinWith [border.between] (fillings.map fun filling =>
    border.fill :: filling ++ [border.fill]) ++ [border.right]

def rule (border : Border) (widths : List Nat) : List Char :=
  line border (widths.map fun width => List.replicate width border.fill)

/-- The lines of a cell in a column. -/
def cellLines (width : Nat) (cell : List Char) : List (List Char) :=
  (wrapText .cropped width cell).map (cropWithEllipsis width)

/-- The lines of a row. Cells with fewer lines than others are filled up. -/
def rowLines (border : Border) (widths : List Nat) (row : List (List Char)) : List (List Char) :=
  let cells := widths.zip (row ++ List.replicate (widths.length - row.length) [])
  let columns := cells.map fun (width, cell) => (width, cellLines width cell)
  let height := (columns.map fun (_, lines) => lines.length).foldl max 1
  (List.range height).map fun index =>
    line border (columns.map fun (width, lines) => padRight width (lines[index]?.getD []))

/-- The width of the whole grid. -/
def width (widths : List Nat) : Nat :=
  widths.foldr (fun column width => column + 3 + width) 1

def titleLines (width : Nat) (title : List Char) : List (List Char) :=
  (wrapText .fold width title).map fun line => center width (crop width (stripRight line))

/-- The grid without the characters that would move the cursor. -/
def withoutControls (grid : Grid) : Grid :=
  { title := dropControls grid.title
    headings := grid.headings.map (·.map dropControls)
    rows := grid.rows.map (·.map dropControls) }

/-- The lines of a grid. -/
def lines (grid : Grid) : List (List Char) :=
  let grid := grid.withoutControls
  let widths := grid.widths
  titleLines (width widths) grid.title
    ++ [rule (topRule grid.headings.isSome) widths]
    ++ (match grid.headings with
        | some headings => rowLines headRow widths headings ++ [rule headRule widths]
        | none => [])
    ++ grid.rows.flatMap (rowLines bodyRow widths)
    ++ [rule bottomRule widths]

end Grid

end CodeGloss.Report
