import CodeGloss.Format.Json.Decode
import CodeGloss.Glossary.Term
import CodeGloss.Stores.Error
import CodeGloss.Text.Blank
import CodeGloss.Text.LineBreak
import CodeGloss.Text.Utf8Block

/-!
# Term files

A JSON term file holds a list of records, or a record with such a list under
`terms`. What is no record in the list is passed over.

A CSV term file has a row for each term: the term, its translation, and its
aliases in one cell with a separator between them. Rows of fewer than two cells
are passed over, and blanks around terms, translations and aliases are dropped.
-/

namespace CodeGloss.Stores

open Files Format Glossary Text

/-- How the file of a database begins. -/
def databaseMark : List UInt8 :=
  Utf8.encode "SQLite format 3\x00".toList

/-- The bytes that a term file holds. Of a database only the beginning is known. -/
def fileBytes (tree : Tree) (path : Path) : Except StoreError (List UInt8) :=
  match tree.open? path with
  | .ok (.bytes content) => .ok content
  | .ok (.database _) => .ok databaseMark
  | .error ⟨.nullName, _⟩ => .error (.raw (.nullName path))
  | .error error => .error (.unreadable path (.access error))

/-! ## JSON -/

/-- The list of a JSON term file. -/
def listOf? : Value → Option (List Value)
  | .list items => some items
  | .record fields =>
      match Fields.get? fields "terms" with
      | some (.list items) => some items
      | some _ => none
      | none => some []
  | _ => none

/-- The terms in the payload of a JSON term file. -/
def termsOfPayload (path : Path) (payload : Value) : Except StoreError (List Term) :=
  match listOf? payload with
  | some items => .ok (items.filterMap Term.ofValue?)
  | none => .error (.notList path)

def decodePayload (levels : Option Nat) (path : Path) (text : List Char) :
    Except StoreError Value :=
  match Json.decodeWithin levels text with
  | .ok payload => .ok payload
  | .error (.longNumber digits) => .error (.raw (.longNumber digits))
  | .error .tooDeep => .error (.raw .tooDeep)
  | .error error => .error (.unreadable path (.json error))

/-- Read a JSON term file. Its values may be nested to so many levels. -/
def readJson (levels : Option Nat) (tree : Tree) (path : Path) : Except StoreError (List Term) := do
  let content ← fileBytes tree path
  match Utf8.decode content with
  | .error error => .error (.unreadable path (.encoding error))
  | .ok text => termsOfPayload path (← decodePayload levels path (unifyBreaks text))

/-! ## CSV -/

/-- The aliases in a cell. -/
def aliasesOfCell (separator cell : List Char) : Except StoreError (List (List Char)) :=
  if isBlankText cell then .ok []
  else if separator = [] then .error (.raw .emptySeparator)
  else .ok (((splitOn separator cell).map strip).filter (· != []))

/-- The term in a row, if there is one. -/
def termOfRow (separator : List Char) : Csv.Row → Except StoreError (Option Term)
  | term :: translation :: rest =>
      (aliasesOfCell separator (rest.head?.getD [])).map fun aliases =>
        some (.ofText (strip term) (strip translation) aliases)
  | _ => .ok none

def termsOfRows (separator : List Char) (rows : List Csv.Row) : Except StoreError (List Term) :=
  (rows.mapM (termOfRow separator)).map fun terms => terms.filterMap id

/-- The rows of a CSV file before its first fault, and the fault. A cell that is
too long comes before bytes that are no text only if its lines are finished
before the block with those bytes. -/
def rowsOfBytes (content : List UInt8) : List Csv.Row × Option FileFault :=
  match Utf8.decodeInBlocks content with
  | (text, none) =>
      let read := Csv.read text
      (read.rows, read.fault.map .csv)
  | (text, some error) =>
      let read := Csv.readBeginning text
      (read.rows, some ((read.fault.map .csv).getD (.encoding error)))

/-- Read a CSV term file. -/
def readCsv (tree : Tree) (path : Path) (separator : List Char) (hasHeader : Bool) :
    Except StoreError (List Term) := do
  let content ← fileBytes tree path
  let (rows, fault) := rowsOfBytes content
  let terms ← termsOfRows separator (if hasHeader then rows.drop 1 else rows)
  match fault with
  | none => .ok terms
  | some fault => .error (.unreadable path fault)

end CodeGloss.Stores
