import CodeGloss.Settings.Environment
import CodeGloss.Text.Case

/-!
# Log levels

The level in the environment may be any text; it is upper-cased and stripped, and
a warning unless something is left. Only some texts name a level. What is logged
is at least as severe as the level.
-/

namespace CodeGloss.Settings

open Text

/-- The level that is named unless the environment names another. -/
def defaultLogLevel : List Char :=
  "WARNING".toList

def verboseLogLevel : List Char :=
  "DEBUG".toList

/-- The name of the level in the environment. -/
def logLevelName (environment : Environment) : List Char :=
  match upper (strip ((environment.get? logLevelVariable).getD defaultLogLevel)) with
  | [] => defaultLogLevel
  | name => name

/-- The name of the level, which a verbose program does not look up. -/
def logLevel (environment : Environment) (verbose : Bool) : List Char :=
  if verbose then verboseLogLevel else logLevelName environment

/-- The severities by name. -/
def severities : List (String × Nat) :=
  [("NOTSET", 0), ("DEBUG", 10), ("INFO", 20), ("WARNING", 30), ("WARN", 30), ("ERROR", 40),
   ("CRITICAL", 50), ("FATAL", 50)]

/-- The least severity that a level lets through, if the name is that of a level. -/
def threshold? (name : List Char) : Option Nat :=
  severities.lookup (String.ofList name)

end CodeGloss.Settings
