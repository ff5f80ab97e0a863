import CodeGloss.Files.Tree
import CodeGloss.Format.Csv
import CodeGloss.Format.Json.Error
import CodeGloss.Stores.Select
import CodeGloss.Text.Utf8

/-!
# Why a term collection cannot be read

A fault of a file or a table is reported with its name. A few faults are not
reported that way and reach the caller as they are: a number with too many digits
and values nested too deeply, an alias separator that is empty, a name that no file
can have, a database at a path that cannot be examined, and aliases in a table cell
that are a number or bytes in no encoding.
-/

namespace CodeGloss.Stores

open Files Format

/-- What may be wrong with a term file. -/
inductive FileFault where
  | access (error : AccessError)
  | encoding (error : Text.Utf8.DecodeError)
  | json (error : Json.DecodeError)
  | csv (fault : Csv.Fault)
  deriving DecidableEq, Repr

def FileFault.message : FileFault → List Char
  | .access error => error.message
  | .encoding error => error.message.toList
  | .json error => error.message.toList
  | .csv fault => fault.message.toList

/-- The faults that a store does not report as its own. -/
inductive RawFault where
  | longNumber (digits : Nat)
  | tooDeep
  | emptySeparator
  | nullName (path : Path)
  /-- It cannot be known whether the database is there. -/
  | unexaminable (error : AccessError)
  /-- The cell for aliases holds a number. -/
  | numericAliases
  /-- The bytes of a cell are no text. -/
  | undecodableAliases
  deriving DecidableEq, Repr

inductive StoreError where
  | unreadable (path : Path) (fault : FileFault)
  /-- The term file holds something other than a list. -/
  | notList (path : Path)
  | noDatabase (path : Path)
  | table (path : Path) (table : List Char) (fault : SelectFault)
  /-- A store outside this library says why it cannot be read. -/
  | outside (reason : List Char)
  | raw (fault : RawFault)
  deriving DecidableEq, Repr

namespace StoreError

/-- How a table of a database is called. -/
def tableTitle (path : Path) (table : List Char) : List Char :=
  "sqlite:".toList ++ path.text ++ ['\x23'] ++ table

def message : StoreError → List Char
  | unreadable path fault =>
      "Cannot read term file ".toList ++ path.text ++ [':', ' '] ++ fault.message
  | notList path => "Term file ".toList ++ path.text ++ " must hold a JSON array".toList
  | noDatabase path => "Term database not found: ".toList ++ path.text
  | table path name fault =>
      "Cannot read term table ".toList ++ tableTitle path name ++ [':', ' '] ++ fault.message
  | outside reason => reason
  | raw (.longNumber digits) => (Json.DecodeError.message (.longNumber digits)).toList
  | raw .tooDeep => (Json.DecodeError.message .tooDeep).toList
  | raw .emptySeparator => "empty separator".toList
  | raw (.nullName path) => AccessError.message ⟨.nullName, path⟩
  | raw (.unexaminable error) => error.message
  | raw .numericAliases => "the aliases are a number".toList
  | raw .undecodableAliases => "the aliases are no text".toList

/-- Whether the store reports the fault as its own. -/
def isReported : StoreError → Bool
  | raw _ => false
  | _ => true

end StoreError

end CodeGloss.Stores
