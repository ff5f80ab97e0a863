import CodeGloss.Text.Blank
import CodeGloss.Text.DisplayWidth
import CodeGloss.Text.Split

/-!
# Lines on a terminal

A terminal has lines of a fixed number of cells. A longer line is broken before a
word; a word that is longer than a line is itself cut into lines, or stands on a
line of its own and is cut off with an ellipsis. Tabs go to the next multiple of
the tab width, and the characters that would move the cursor are left out.
-/

namespace CodeGloss.Report

open Text

/-- The cells of a line on the terminal. -/
def terminalWidth : Nat := 200

/-- The characters that would move the cursor. -/
def isCursorControl (c : Char) : Bool :=
  c == '\x07' || c == '\x08' || c == '\x0b' || c == '\x0c' || c == '\r'

def dropControls (text : List Char) : List Char :=
  text.filter fun c => !isCursorControl c

/-- Blanks in place of tabs. `width` says how many cells a character takes, and
`place` is the cell where the text begins. -/
def expandTabs (width : Char → Nat) (stop place : Nat) : List Char → List Char
  | [] => []
  | '\t' :: rest =>
      let blanks := stop - place % stop
      List.replicate blanks ' ' ++ expandTabs width stop (place + blanks) rest
  | c :: rest =>
      c :: expandTabs width stop (if c = '\n' ∨ c = '\r' then 0 else place + width c) rest

/-- The first characters of a line that fit into so many cells. Half of a
character of two cells is a blank. -/
def takeCells (width : Nat) : List Char → List Char
  | [] => []
  | c :: rest =>
      if displayWidth c ≤ width then c :: takeCells (width - displayWidth c) rest
      else if width = 1 then [' ']
      else []

/-- A line cut off at a width. -/
def crop (width : Nat) (line : List Char) : List Char :=
  if textWidth line ≤ width then line else takeCells width line

/-- A line cut off at a width, with an ellipsis for the rest. -/
def cropWithEllipsis (width : Nat) (line : List Char) : List Char :=
  if textWidth line ≤ width then line else takeCells (width - 1) line ++ ['…']

def padRight (width : Nat) (line : List Char) : List Char :=
  line ++ List.replicate (width - textWidth line) ' '

/-- Put a line in the middle. Of an odd number of blanks the last goes to the
right. -/
def center (width : Nat) (line : List Char) : List Char :=
  List.replicate ((width - textWidth line) / 2) ' ' ++ line

/-- The first word of a text with the blanks before and after it, and the rest. -/
def firstWord (text : List Char) : List Char × List Char :=
  let lead := text.takeWhile isBlank
  let rest := text.dropWhile isBlank
  let word := rest.takeWhile fun c => !isBlank c
  let rest := rest.dropWhile fun c => !isBlank c
  (lead ++ word ++ rest.takeWhile isBlank, rest.dropWhile isBlank)

/-- The words of a text, each with the blanks after it, and the first also with
those before it. A blank text has no words. -/
def words (text : List Char) : List (List Char) :=
  match text with
  | [] => []
  | c :: rest =>
      if isBlankText (c :: rest) then []
      else
        let word := (firstWord (c :: rest)).1
        word :: words ((c :: rest).drop (max 1 word.length))
termination_by text.length
decreasing_by simp only [List.length_drop, List.length_cons]; omega

/-- Cut a word into lines. `room` is what is left of the open line. -/
def chop (width room : Nat) : List Char → List (List Char)
  | [] => [[]]
  | c :: rest =>
      if displayWidth c ≤ room then extendFirst [c] (chop width (room - displayWidth c) rest)
      else [] :: extendFirst [c] (chop width (width - displayWidth c) rest)

/-- What becomes of a word that is longer than a line. -/
inductive LongWord where
  | fold
  | cropped
  deriving DecidableEq, Repr

/-- Lines under way: the finished ones, latest first, and the open one. -/
structure Paragraph where
  finished : List (List Char)
  opened : List Char
  deriving DecidableEq, Repr

namespace Paragraph

def lines (paragraph : Paragraph) : List (List Char) :=
  (paragraph.opened :: paragraph.finished).reverse

/-- Begin a new line, unless there is nothing yet. -/
def newLine (paragraph : Paragraph) (line : List Char) : Paragraph :=
  if paragraph.opened = [] then { paragraph with opened := line }
  else ⟨paragraph.opened :: paragraph.finished, line⟩

def addWord (long : LongWord) (width : Nat) (paragraph : Paragraph) (word : List Char) :
    Paragraph :=
  let size := textWidth (stripRight word)
  if textWidth paragraph.opened + size ≤ width then
    { paragraph with opened := paragraph.opened ++ word }
  else if width < size ∧ long = .fold then (chop width width word).foldl newLine paragraph
  else paragraph.newLine word

end Paragraph

/-- Break a line into lines of at most `width` cells, blanks at their ends apart. -/
def wrapLine (long : LongWord) (width : Nat) (line : List Char) : List (List Char) :=
  match words line with
  | [] => [line]
  | found => (found.foldl (Paragraph.addWord long width) ⟨[], []⟩).lines

/-- Drop blanks at the end of a line, as far as it has more than `width` characters. -/
def trimEnd (width : Nat) (line : List Char) : List Char :=
  line.take (max width (stripRight line).length)

/-- The lines of a text that the terminal shows under one another. -/
def wrapText (long : LongWord) (width : Nat) (text : List Char) : List (List Char) :=
  (splitOn ['\n'] text).flatMap fun line =>
    (wrapLine long width (expandTabs displayWidth 8 0 line)).map (trimEnd width)

/-- The lines that a message takes on the terminal. -/
def messageLines (text : List Char) : List (List Char) :=
  (wrapText .fold terminalWidth (dropControls text)).map (crop terminalWidth)

end CodeGloss.Report
