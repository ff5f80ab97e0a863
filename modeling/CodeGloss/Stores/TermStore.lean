import CodeGloss.Stores.TermFile
import CodeGloss.Stores.TermTable

/-!
# Term stores

Where the terms of a dictionary come from: a list in memory, a file or a table,
or something outside this library that answers each request in turn. A store
for a path is chosen by the suffix of the path.
-/

namespace CodeGloss.Stores

open Files Format Glossary Text

inductive TermStore where
  | static (terms : List Term)
  /-- No terms, so that only the built-in vocabulary is used. -/
  | empty
  | json (path : Path)
  | csv (path : Path) (separator : List Char) (hasHeader : Bool)
  | table (path : Path) (name : TableName)
  /-- A store outside this library: its name, and its answer to each request,
  counted from zero. -/
  | outside (name : List Char) (answer : Nat → Except StoreError (List Term))

namespace TermStore

def name : TermStore → List Char
  | static terms => s!"static ({terms.length} terms)".toList
  | empty => "built-in defaults".toList
  | json path => "json:".toList ++ path.text
  | csv path _ _ => "csv:".toList ++ path.text
  | table path name => StoreError.tableTitle path name.text
  | outside name _ => name

/-- The separator of aliases in CSV files. -/
def aliasSeparator : List Char :=
  ['|']

/-- The store for a file. -/
def ofPath (path : Path) : TermStore :=
  let suffix := String.ofList (lower path.suffix)
  if suffix = ".csv" then csv path aliasSeparator true
  else if suffix = ".db" ∨ suffix = ".sqlite" ∨ suffix = ".sqlite3" then table path .terms
  else json path

/-- Read the whole collection, on a machine that follows JSON values to so many levels.
`request` is the number of requests before. -/
def readWithin (levels : Option Nat) (tree : Tree) (request : Nat) :
    TermStore → Except StoreError (List Term)
  | static terms => .ok terms
  | empty => .ok []
  | json path => readJson levels tree path
  | csv path separator hasHeader => readCsv tree path separator hasHeader
  | table path name => readTable levels tree path name
  | outside _ answer => answer request

/-- Read the whole collection, on a machine that follows JSON values to any level. -/
def read (tree : Tree) (request : Nat) (store : TermStore) : Except StoreError (List Term) :=
  store.readWithin none tree request

end TermStore

end CodeGloss.Stores
