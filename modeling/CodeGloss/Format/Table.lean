import CodeGloss.Format.Value

/-!
# Tables of a database

A database is a list of tables. A table has named columns, and rows that are
read in the order of their numbers. Names are told apart by ASCII letters
without regard to case.
-/

namespace CodeGloss.Format

structure Table where
  name : List Char
  columns : List (List Char)
  /-- The rows, each with its number. -/
  rows : List (Int × List Value)

abbrev Database := List Table

/-- Whether two names are one but for the case of ASCII letters. -/
def sameName (a b : List Char) : Bool :=
  a.map Char.toLower == b.map Char.toLower

/-- The table of that name. -/
def Database.table? (database : Database) (name : List Char) : Option Table :=
  database.find? fun table => sameName table.name name

namespace Table

/-- The place of the column of that name. -/
def column? (table : Table) (name : List Char) : Option Nat :=
  table.columns.findIdx? (sameName name)

/-- The rows in the order of their numbers. -/
def orderedRows (table : Table) : List (List Value) :=
  (table.rows.mergeSort fun a b => a.1 ≤ b.1).map Prod.snd

/-- Rows that stand in the order of their numbers are read as they stand. -/
theorem orderedRows_of_pairwise {table : Table}
    (ordered : table.rows.Pairwise fun a b => a.1 ≤ b.1) :
    table.orderedRows = table.rows.map Prod.snd := by
  rw [orderedRows, List.mergeSort_of_pairwise (by simpa using ordered)]

/-- The cell of a row in the named column. A row that is too short has null there. -/
def cell (table : Table) (row : List Value) (name : List Char) : Value :=
  ((table.column? name).bind fun place => row[place]?).getD .null

/-- The cells of the named columns row by row, or the first name that no column
has. -/
def select (table : Table) (names : List (List Char)) : Except (List Char) (List (List Value)) :=
  match names.find? fun name => (table.column? name).isNone with
  | some name => .error name
  | none => .ok (table.orderedRows.map fun row => names.map (table.cell row))

end Table

end CodeGloss.Format
