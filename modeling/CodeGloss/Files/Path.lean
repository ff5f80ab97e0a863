import CodeGloss.Text.Case
import CodeGloss.Text.Split

/-!
# Paths

A path is a root and the names on the way from it. Empty names and single dots
lead nowhere and are dropped; a double dot is a name of its own. The last part of
a file's name from its last dot on is the suffix, unless the dot begins or ends
the name.
-/

namespace CodeGloss.Files

open Text

abbrev Name := List Char

structure Path where
  /-- What the text of the path begins with; empty for a relative path. -/
  root : List Char
  names : List Name
  deriving DecidableEq, Repr, Inhabited

namespace Path

/-- Two slashes are a root of their own, and any other number is one slash. -/
def rootOf : List Char → List Char
  | '/' :: '/' :: '/' :: _ => ['/']
  | '/' :: '/' :: _ => ['/', '/']
  | '/' :: _ => ['/']
  | _ => []

def ofText (text : List Char) : Path :=
  ⟨rootOf text, (splitOn ['/'] text).filter fun name => name != [] && name != ['.']⟩

/-- The text of a path. The path that goes nowhere is a dot. -/
def text (path : Path) : List Char :=
  if path.root = [] ∧ path.names = [] then ['.']
  else path.root ++ joinWith ['/'] path.names

/-- The last name, which is empty for a root. -/
def name (path : Path) : Name :=
  path.names.getLast?.getD []

/-- A name from its last dot on, if characters stand on both sides of the dot. -/
def suffixOf (name : Name) : List Char :=
  let ending := (name.reverse.takeWhile (· != '.')).reverse
  if ending = [] ∨ name.length ≤ ending.length + 1 then []
  else '.' :: ending

def suffix (path : Path) : List Char :=
  suffixOf path.name

/-- Whether the path starts at a home directory. -/
def isHomeRelative (path : Path) : Bool :=
  path.root.isEmpty && (path.names.head?.bind List.head?) == some '~'

/-- The path that leads from `home` on. A home directory without a name is the
root of all. -/
def below (home : List Char) (names : List Name) : Path :=
  let start := ofText (if home.all (· == '/') then ['/'] else home)
  { start with names := start.names ++ names }

/-- A leading tilde stands for the home directory. There is none for the tilde
of another account, or if the home directory itself starts with a tilde. -/
def expandHome (home : Option (List Char)) (path : Path) : Option Path :=
  if path.isHomeRelative then
    match path.names, home with
    | ['~'] :: rest, some directory =>
        if directory.head? = some '~' then none else some (below directory rest)
    | _, _ => none
  else some path

end Path

end CodeGloss.Files
