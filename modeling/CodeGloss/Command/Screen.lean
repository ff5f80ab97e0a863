import CodeGloss.Files.Tree
import CodeGloss.Report.Console
import CodeGloss.Translator.Session

/-!
# What a command shows

A command shows lines and may write a file, and ends with an exit code. An error
that it expects is shown as a line; any other breaks the command off, and then
nothing counts that was shown before. A file that was written stays.
-/

namespace CodeGloss.Command

open Files Translator Report Settings Stores

/-- Why a command breaks off. -/
inductive Failure where
  | logLevel (name : List Char)
  | path (error : PathError)
  | access (error : AccessError)
  | encoding (error : Text.Utf8.DecodeError)
  | translate (error : TranslateError)
  | markup (error : MarkupError)
  deriving DecidableEq, Repr

structure Screen where
  exitCode : Nat
  lines : List (List Char)
  events : List Event
  deriving DecidableEq, Repr

/-- Lines and a good end. -/
def Screen.ofLines (lines : List (List Char)) (events : List Event) : Screen :=
  ⟨0, lines, events⟩

/-- A path and the bytes that were written there. -/
abbrev Written := Path × List UInt8

/-- What a command comes to. It may break off after it has written its file. -/
structure Outcome where
  written : Option Written
  result : Except Failure Screen

/-- The outcome of a command that writes no file. -/
def Outcome.ofResult (result : Except Failure Screen) : Outcome :=
  ⟨none, result⟩

/-- Whether a command expects the error. -/
def isExpected : TranslateError → Bool
  | .store error => error.isReported
  | .parse _ => true
  | .passage _ => false
  | .edit _ => false

/-- The text of an error that a command expects. -/
def errorText : TranslateError → List Char
  | .store error => error.message
  | .parse error => error.message
  | .passage _ => []
  | .edit error => error.message.toList

section Printing

variable (console : Console)

/-- The lines of a message with markup. -/
def say (message : List Char) : Except Failure (List (List Char)) :=
  (console.message message).mapError .markup

/-- The text of a cell with markup. -/
def sayCell (text : List Char) : Except Failure (List Char) :=
  (console.cell text).mapError .markup

/-- The screen of an expected error. -/
def showError (message : List Char) (events : List Event) : Except Failure Screen :=
  (say console ("[red]Error:[/] ".toList ++ message)).map fun lines => ⟨1, lines, events⟩

/-- Show the error if it is expected, and break off otherwise. -/
def showTranslateError (error : TranslateError) (events : List Event) : Except Failure Screen :=
  if isExpected error then showError console (errorText error) events
  else .error (.translate error)

end Printing

end CodeGloss.Command
