import CodeGloss.Report.Wrap
import CodeGloss.Text.LineBreak

/-!
# Code on a terminal

Code is shown line by line. Every line break counts, tabs go to the next multiple
of four characters, a byte order mark at the start is not shown, and a line that
is too long for the terminal is cut off.
-/

namespace CodeGloss.Report

open Text

def codeTabs : Nat := 4

/-- The code with a line break at its end. -/
def endLine (code : List Char) : List Char :=
  if code.getLast? = some '\n' then code else code ++ ['\n']

def dropMark : List Char → List Char
  | '\ufeff' :: rest => rest
  | text => text

/-- The text that is shown of a code. -/
def shownCode (code : List Char) : List Char :=
  let shown := dropControls (unifyBreaks (dropMark (expandTabs (fun _ => 1) codeTabs 0 (endLine code))))
  if code.getLast? = some '\n' then shown else shown.dropLast

/-- The lines of a code. -/
def codeLines (code : List Char) : List (List Char) :=
  (splitOn ['\n'] (shownCode code)).map (crop terminalWidth)

end CodeGloss.Report
