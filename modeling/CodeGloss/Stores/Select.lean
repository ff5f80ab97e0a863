import CodeGloss.Files.Tree
import CodeGloss.Text.Alphanumeric
import CodeGloss.Text.Hexadecimal
import CodeGloss.Text.Utf8

/-!
# Selecting terms from a table

The terms of a database are the rows of one table, with a column each for the
term, the translation and the aliases. The name of the table stands bare in the
query, so a name that the query language reads as something else breaks it: a
number, a number with letters after it, or a reserved word.
-/

namespace CodeGloss.Stores

open Files Format Text

/-- Letters, digits and underscores, and not underscores alone. -/
def isTableName (text : List Char) : Bool :=
  text.any (· != '_') && text.all fun c => c == '_' || isAlphanumeric c

/-- A table name that can stand in a query. -/
structure TableName where
  text : List Char
  valid : isTableName text = true
  deriving DecidableEq, Repr

def TableName.ofText? (text : List Char) : Option TableName :=
  if valid : isTableName text = true then some ⟨text, valid⟩ else none

/-- The table that holds the terms unless another is named. -/
def TableName.terms : TableName :=
  ⟨"terms".toList, by decide⟩

/-- Why a selection fails. -/
inductive SelectFault where
  /-- A folder stands where the database should be. -/
  | cannotOpen
  | notDatabase
  | unexpectedToken (token : List Char)
  | badToken (token : List Char)
  | noTable (name : List Char)
  | noColumn (name : List Char)
  deriving DecidableEq, Repr

def SelectFault.message : SelectFault → List Char
  | .cannotOpen => "unable to open database file".toList
  | .notDatabase => "file is not a database".toList
  | .unexpectedToken token => "near \"".toList ++ token ++ "\": syntax error".toList
  | .badToken token => "unrecognized token: \"".toList ++ token ++ ['"']
  | .noTable name => "no such table: ".toList ++ name
  | .noColumn name => "no such column: ".toList ++ name

/-- The words that cannot name a table. -/
def reservedWords : List String :=
  ["add", "all", "alter", "and", "as", "autoincrement", "between", "case", "check", "collate",
   "commit", "constraint", "create", "default", "deferrable", "delete", "distinct", "drop",
   "else", "escape", "except", "exists", "foreign", "from", "group", "having", "in", "index",
   "insert", "intersect", "into", "is", "isnull", "join", "limit", "not", "nothing", "notnull",
   "null", "on", "or", "order", "primary", "references", "returning", "select", "set", "table",
   "then", "to", "transaction", "union", "unique", "update", "using", "values", "when", "where"]

/-- Whether the text has at least one character in the class, the first one, and
otherwise only such and underscores between or behind them. -/
def isDigitRun (isDigit : Char → Bool) : List Char → Bool
  | [] => false
  | c :: rest => isDigit c && rest.all fun d => isDigit d || d == '_'

/-- Whether a text is a whole number: decimal, hexadecimal, or with an exponent.
Underscores may stand between digits. -/
def isNumeral (text : List Char) : Bool :=
  let digits := text.takeWhile fun c => c.isDigit || c == '_'
  let exponent := match text.drop digits.length with
    | [] => true
    | e :: rest => (e == 'e' || e == 'E') && isDigitRun Char.isDigit rest
  let hexadecimal := match text with
    | '0' :: x :: rest => (x == 'x' || x == 'X') && isDigitRun isHexDigit rest
    | _ => false
  hexadecimal || isDigitRun Char.isDigit digits && exponent

/-- How the query language misreads a name, if it does. -/
def misreading? (name : List Char) : Option SelectFault :=
  if (name.head?.map Char.isDigit).getD false then
    some (if isNumeral name then .unexpectedToken name else .badToken name)
  else if String.ofList (name.map Char.toLower) ∈ reservedWords then some (.unexpectedToken name)
  else none

/-- The tables in which a database lists its own. None has a column of terms. -/
def catalogNames : List String :=
  ["sqlite_master", "sqlite_schema", "sqlite_temp_master", "sqlite_temp_schema"]

def termColumns : List (List Char) :=
  ["term".toList, "translation".toList, "aliases".toList]

/-- The tables in a file. An empty file is a database without tables. -/
def tablesOf : Content → Except SelectFault Database
  | .database tables => .ok tables
  | .bytes [] => .ok []
  | .bytes (_ :: _) => .error .notDatabase

/-- The cells for term, translation and aliases of each row of a table. -/
def selectTerms (content : Content) (name : TableName) :
    Except SelectFault (List (List Value)) := do
  if let some fault := misreading? name.text then .error fault
  let database ← tablesOf content
  match database.table? name.text with
  | some table => (table.select termColumns).mapError .noColumn
  | none =>
      if catalogNames.any fun catalog => sameName catalog.toList name.text then
        .error (.noColumn "term".toList)
      else .error (.noTable name.text)

/-- A table that has the columns of terms and no others is read as it stands. -/
theorem selectTerms_terms {rows : List (Int × List Value)}
    (ordered : rows.Pairwise fun a b => a.1 ≤ b.1) (full : ∀ row ∈ rows, row.2.length = 3) :
    selectTerms (.database [⟨"terms".toList, termColumns, rows⟩]) .terms =
      .ok (rows.map Prod.snd) := by
  let table : Table := ⟨"terms".toList, termColumns, rows⟩
  have selected : selectTerms (.database [table]) .terms =
      .ok (table.orderedRows.map fun row => termColumns.map (table.cell row)) := rfl
  rw [selected, Table.orderedRows_of_pairwise ordered, List.map_map]
  congr 1
  apply List.map_congr_left
  rintro ⟨number, cells⟩ member
  match cells, full _ member with
  | [term, translation, aliases], _ => rfl

end CodeGloss.Stores
