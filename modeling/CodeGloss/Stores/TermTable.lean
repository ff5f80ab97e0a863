import CodeGloss.Format.Json.Decode
import CodeGloss.Glossary.Term
import CodeGloss.Stores.Error
import CodeGloss.Text.Encoding

/-!
# Term tables

A term table has a row for each term. The cell for aliases holds a JSON list as
text or bytes. A cell that is empty, or whose text is not JSON, gives no aliases.
-/

namespace CodeGloss.Stores

open Files Format Glossary Text

/-- The value of a JSON text, null if it is none. -/
def aliasesOfText (levels : Option Nat) (text : List Char) : Except StoreError Value :=
  match Json.decodeWithin levels text with
  | .ok value => .ok value
  | .error (.longNumber digits) => .error (.raw (.longNumber digits))
  | .error .tooDeep => .error (.raw .tooDeep)
  | .error _ => .ok .null

/-- The value that the cell for aliases holds. -/
def aliasesOfValue (levels : Option Nat) (cell : Value) : Except StoreError Value :=
  if cell.isEmpty then .ok .null
  else
    match cell with
    | .text text => aliasesOfText levels text
    | .bytes content =>
        match decodeAny? content with
        | some text => aliasesOfText levels text
        | none => .error (.raw .undecodableAliases)
    | _ => .error (.raw .numericAliases)

/-- The term in the cells of a row. -/
def termOfCells (levels : Option Nat) (cells : List Value) : Except StoreError Term :=
  let cell (place : Nat) := cells[place]?.getD .null
  (aliasesOfValue levels (cell 2)).map fun aliases =>
    .ofFields
      [("term".toList, cell 0), ("translation".toList, cell 1), ("aliases".toList, aliases)]

/-- The name under which a database is kept in memory, and never in a file. -/
def memoryName : List Char :=
  ":memory:".toList

/-- What is opened as a database at a path. Whether there is anything has to be known first, and
then a name that stands for memory gives a database without tables. -/
def databaseAt (tree : Tree) (path : Path) (name : TableName) : Except StoreError Content :=
  match tree.exists? path with
  | .error error => .error (.raw (.unexaminable error))
  | .ok false => .error (.noDatabase path)
  | .ok true =>
      if path.text = memoryName then .ok (.database [])
      else
        match tree.find path with
        | .ok (.file content) => .ok content
        | _ => .error (.table path name.text .cannotOpen)

/-- Read a term table. The aliases in its cells may be nested to so many levels. -/
def readTable (levels : Option Nat) (tree : Tree) (path : Path) (name : TableName) :
    Except StoreError (List Term) := do
  let content ← databaseAt tree path name
  let rows ← (selectTerms content name).mapError (.table path name.text)
  rows.mapM (termOfCells levels)

end CodeGloss.Stores
