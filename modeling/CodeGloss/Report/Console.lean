import CodeGloss.Report.Grid
import CodeGloss.Report.Listing
import CodeGloss.Report.Markup

/-!
# Consoles

What commands print with. Messages and cells may carry markup, and a console may
refuse markup; a grid of texts and a listing of code can always be printed.
-/

namespace CodeGloss.Report

structure Console where
  /-- The lines of a message with markup. -/
  message : List Char → Except MarkupError (List (List Char))
  /-- The text of a cell with markup. -/
  cell : List Char → Except MarkupError (List Char)
  grid : Grid → List (List Char)
  /-- The lines of a code. -/
  listing : List Char → List (List Char)

/-- A terminal without colours. -/
def Console.terminal : Console where
  message text := (plainText text).map messageLines
  cell := plainText
  grid := Grid.lines
  listing := codeLines

end CodeGloss.Report
