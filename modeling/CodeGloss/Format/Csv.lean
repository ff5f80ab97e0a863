import CodeGloss.Text.LineBreak

/-!
# Comma-separated rows

A row is a line of cells with commas between them. A cell that begins with a
quote runs to the closing quote, over commas and line breaks, and a doubled quote
stands for one. What follows a closing quote belongs to the cell and is plain
again. A quote inside a plain cell is a character like any other. An empty line
is a row without cells.

The reader goes through the text once, one character at a time.
-/

namespace CodeGloss.Format.Csv

abbrev Row := List (List Char)

/-- A cell may have this many characters. -/
def cellLimit : Nat := 131072

/-- A cell that is longer than a cell may be. -/
inductive Fault where
  | longCell
  deriving DecidableEq, Repr

def Fault.message : Fault → String
  | .longCell => s!"field larger than field limit ({cellLimit})"

inductive State where
  | rowStart
  | cellStart
  | plain
  | quoted
  /-- After a quote in a quoted cell, which closes the cell or is half a quote. -/
  | quoteSeen
  /-- After a carriage return that ended a row. -/
  | returnSeen
  deriving DecidableEq, Repr

/-- The row under way: its finished cells and the characters of the open one,
both latest first, and how many characters those are. -/
structure Reader where
  state : State
  cells : List (List Char)
  cell : List Char
  size : Nat
  deriving DecidableEq, Repr

namespace Reader

def start : Reader :=
  ⟨.rowStart, [], [], 0⟩

def keep (reader : Reader) (state : State) (c : Char) : Except Fault Reader :=
  if cellLimit ≤ reader.size then .error .longCell
  else .ok { reader with state, cell := c :: reader.cell, size := reader.size + 1 }

def endCell (reader : Reader) : Reader :=
  ⟨.cellStart, reader.cell.reverse :: reader.cells, [], 0⟩

/-- The row that the open cell completes. -/
def row (reader : Reader) : Row :=
  (reader.cell.reverse :: reader.cells).reverse

def isBreak (c : Char) : Bool :=
  c == '\n' || c == '\r'

def afterBreak (c : Char) : Reader :=
  { start with state := if c = '\r' then .returnSeen else .rowStart }

/-- Read a character outside quotes. -/
def stepPlain (reader : Reader) (c : Char) : Except Fault (Reader × Option Row) :=
  if isBreak c then .ok (afterBreak c, some reader.row)
  else if c = ',' then .ok (reader.endCell, none)
  else (reader.keep .plain c).map (·, none)

/-- Read a character at the start of a cell. -/
def stepCellStart (reader : Reader) (c : Char) : Except Fault (Reader × Option Row) :=
  if c = '"' then .ok ({ reader with state := .quoted }, none) else reader.stepPlain c

/-- Read a character at the start of a row. -/
def stepRowStart (c : Char) : Except Fault (Reader × Option Row) :=
  if isBreak c then .ok (afterBreak c, some []) else start.stepCellStart c

/-- Read one character, and give the row that it completes. -/
def step (reader : Reader) (c : Char) : Except Fault (Reader × Option Row) :=
  match reader.state with
  | .rowStart => stepRowStart c
  | .returnSeen => if c = '\n' then .ok (start, none) else stepRowStart c
  | .cellStart => reader.stepCellStart c
  | .plain => reader.stepPlain c
  | .quoted =>
      if c = '"' then .ok ({ reader with state := .quoteSeen }, none)
      else (reader.keep .quoted c).map (·, none)
  | .quoteSeen =>
      if c = '"' then (reader.keep .quoted c).map (·, none) else reader.stepPlain c

/-- The row that the end of the text completes. -/
def finish (reader : Reader) : List Row :=
  match reader.state with
  | .rowStart | .returnSeen => []
  | _ => [reader.row]

end Reader

/-- The rows before the first fault, and the fault. -/
structure Rows where
  rows : List Row
  fault : Option Fault
  deriving DecidableEq, Repr

/-- Read on. `ended` says whether the end of the characters is the end of the
text, where an open row is complete. -/
def readFrom (ended : Bool) (reader : Reader) : List Char → Rows
  | [] => ⟨if ended then reader.finish else [], none⟩
  | c :: rest =>
      match reader.step c with
      | .error fault => ⟨[], some fault⟩
      | .ok (next, none) => readFrom ended next rest
      | .ok (next, some row) =>
          let more := readFrom ended next rest
          { more with rows := row :: more.rows }

/-- The rows of a text. -/
def read (text : List Char) : Rows :=
  readFrom true .start text

/-- The rows that are complete in the finished lines of the beginning of a text. -/
def readBeginning (text : List Char) : Rows :=
  readFrom false .start (Text.finishedLines text)

end CodeGloss.Format.Csv
