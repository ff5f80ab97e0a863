import CodeGloss.Files.Tree
import CodeGloss.Glossary.Vocabulary
import CodeGloss.Text.Blank
import CodeGloss.Text.Utf8

/-!
# Environment and term file

Which term file is used when no store is given: the path that the caller names,
else the one in the environment, else the file that comes with the library. A
leading tilde is expanded in the environment's path only.
-/

namespace CodeGloss.Settings

open Files Text

/-- Variables by name. -/
structure Environment where
  bindings : List (List Char × List Char)
  deriving Inhabited

namespace Environment

def get? (environment : Environment) (name : String) : Option (List Char) :=
  environment.bindings.lookup name.toList

def unset (environment : Environment) (name : List Char) : Environment :=
  ⟨environment.bindings.filter fun (other, _) => other != name⟩

def set (environment : Environment) (name value : List Char) : Environment :=
  ⟨(name, value) :: (environment.unset name).bindings⟩

end Environment

/-- The variable that names the term file. -/
def dictionaryVariable : String := "DEVTRANS_DICTIONARY"

/-- The variable that names the least severity of what is logged. -/
def logLevelVariable : String := "DEVTRANS_LOG_LEVEL"

/-- The term file that comes with the library. -/
def bundledPath : Path :=
  ⟨"<DATA>/".toList, ["terms.json".toList]⟩

/-- The tree that holds only what comes with the library. -/
def bundledTree : Tree :=
  ⟨[(bundledPath, .file (.bytes (Utf8.encode Glossary.bundledTermFile)))]⟩

/-- The path in the environment starts at a home directory that is not known. -/
inductive PathError where
  | noHome
  deriving DecidableEq, Repr

/-- The path of the term file. -/
def termFilePath (environment : Environment) (given : Option Path) : Except PathError Path :=
  match given with
  | some path => .ok path
  | none =>
      match strip ((environment.get? dictionaryVariable).getD []) with
      | [] => .ok bundledPath
      | text =>
          match (Path.ofText text).expandHome (environment.get? "HOME") with
          | some path => .ok path
          | none => .error .noHome

end CodeGloss.Settings
