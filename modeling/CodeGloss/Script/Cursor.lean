import CodeGloss.Syntax.Node
import CodeGloss.Text.CodeRange
import CodeGloss.Text.Hexadecimal
import CodeGloss.Text.Utf8

/-!
# Reading a script

A reader stands before the next token of a script. Blanks and comments are
passed as soon as the token before them is taken, and every comment passed is
noted. A reader never gives up: where the script is not well formed it notes a
fault and goes on. Faults that follow each other directly count as one.
-/

namespace CodeGloss.Script

open Syntax Text

/-- Where a reader stands and what it has found. -/
structure Cursor where
  rest : List Char
  /-- The number of bytes before `rest`. -/
  offset : Nat
  /-- Whether a line ends between the token before and the next one. -/
  lineBreak : Bool
  /-- The nodes found on this level, the latest first. -/
  found : List Node
  faults : Nat
  /-- Whether nothing has been read since the last fault. -/
  recovering : Bool

abbrev Reader (α : Type) := StateM Cursor α

/-! ## Characters -/

/-- Blanks between tokens. -/
def blankRanges : CodeRanges :=
  [(0x09, 0x0D), (0x20, 0x20), (0xA0, 0xA0), (0x1680, 0x1680), (0x2000, 0x200B),
   (0x2028, 0x2029), (0x202F, 0x202F), (0x205F, 0x2060), (0x3000, 0x3000), (0xFEFF, 0xFEFF)]

def isSpace (c : Char) : Bool :=
  blankRanges.contains c.toNat

/-- What ends a line where a statement may end with it. -/
def isLineBreak (c : Char) : Bool :=
  c == '\n' || c == '\u2028' || c == '\u2029'

/-- What ends a line comment. -/
def endsLineComment (c : Char) : Bool :=
  isLineBreak c || c == '\r'

def punctuation : List Char :=
  [':', ';', '\x60', '"', '\'', '@', '#', '.', ',', '|', '^', '&', '<', '=', '>', '+', '-', '*',
   '/', '\\', '%', '?', '!', '~', '(', ')', '[', ']', '\x7b', '\x7d']

/-- Whether a name may contain the character. -/
def isNameChar (c : Char) : Bool :=
  0x20 ≤ c.toNat && !isSpace c && !punctuation.contains c

/-- Whether the text behind a backslash gives the number of a character. -/
def startsEscape : List Char → Bool
  | 'u' :: a :: b :: c :: d :: _ => [a, b, c, d].all isHexDigit
  | _ => false

/-- The characters that go on with a name. One of them may be written as its number
behind a backslash. -/
def nameChars : List Char → List Char
  | [] => []
  | c :: rest =>
      if isNameChar c || c == '\\' && startsEscape rest then c :: nameChars rest else []

/-- The name at the start of a text. -/
def nameAt (text : List Char) : List Char :=
  if text.head?.any Char.isDigit then [] else nameChars text

/-! ## Comments -/

/-- The length of a block comment from behind its opener on. -/
def blockCommentLength? : List Char → Option Nat
  | [] => none
  | c :: rest =>
      if c = '*' ∧ rest.head? = some '/' then some 2
      else (blockCommentLength? rest).map (· + 1)

/-- The length of the comment at the start of a text. -/
def commentLength? : List Char → Option Nat
  | '/' :: '/' :: rest => some ((rest.takeWhile fun c => !endsLineComment c).length + 2)
  | '/' :: '*' :: rest => (blockCommentLength? rest).map (· + 2)
  | _ => none

namespace Cursor

/-- The cursor behind the next `count` characters. -/
def drop (cursor : Cursor) (count : Nat) : Cursor :=
  { cursor with
    rest := cursor.rest.drop count
    offset := cursor.offset + (Utf8.encode (cursor.rest.take count)).length }

/-- Note a node. -/
def push (cursor : Cursor) (node : Node) : Cursor :=
  { cursor with found := node :: cursor.found }

/-- Pass blanks and comments. -/
def passTrivia (cursor : Cursor) : Cursor :=
  match _rest : cursor.rest with
  | [] => cursor
  | c :: rest =>
      if isSpace c then
        passTrivia
          { cursor with
            rest
            offset := cursor.offset + Utf8.width c
            lineBreak := cursor.lineBreak || isLineBreak c }
      else
        match commentLength? cursor.rest with
        | none => cursor
        | some length =>
            let comment := c :: rest.take (length - 1)
            let stop := cursor.offset + (Utf8.encode comment).length
            passTrivia
              { cursor with
                rest := rest.drop (length - 1)
                offset := stop
                lineBreak := cursor.lineBreak || comment.any isLineBreak
                found := .leaf .comment cursor.offset stop :: cursor.found }
termination_by cursor.rest.length
decreasing_by
  · simp [_rest]
  · simp only [_rest, List.length_drop, List.length_cons]; omega

end Cursor

/-! ## Tokens -/

/-- Take the next `count` characters, and nothing behind them. -/
def advance (count : Nat) : Reader Unit :=
  modify fun cursor => cursor.drop count

/-- Pass blanks and comments. -/
def passTrivia : Reader Unit :=
  modify fun cursor => { cursor with lineBreak := false }.passTrivia

/-- Take a token of `count` characters and what lies between it and the next. -/
def token (count : Nat) : Reader Unit := do
  advance count
  passTrivia

/-- The text from the next token on. -/
def text : Reader (List Char) := do
  return (← get).rest

/-- The next character. -/
def next? : Reader (Option Char) := do
  return (← text).head?

def startsWith (start : String) : Reader Bool := do
  return start.toList.isPrefixOf (← text)

/-- The name that comes next; empty if something else does. -/
def nextName : Reader String := do
  return String.ofList (nameAt (← text))

/-- The cursor behind the next `count` characters and what follows them. -/
def ahead (count : Nat) : Reader Cursor := do
  return { (← get).drop count with lineBreak := false }.passTrivia

/-- The cursor behind the next name. -/
def aheadOfName : Reader Cursor := do
  ahead (nameAt (← text)).length

/-- Take a token if it comes next. -/
def eat (start : String) : Reader Bool := do
  if ← startsWith start then
    token start.length
    return true
  else return false

/-- Take a name if it comes next. -/
def eatName (name : String) : Reader Bool := do
  if (← nextName) = name then
    token name.length
    return true
  else return false

/-- Something was read as it should be. -/
def settle : Reader Unit :=
  modify fun cursor => { cursor with recovering := false }

/-- Note that the script is not well formed here. -/
def fault : Reader Unit :=
  modify fun cursor =>
    if cursor.recovering then cursor
    else
      { cursor.push (.leaf .error cursor.offset cursor.offset) with
        faults := cursor.faults + 1
        recovering := true }

/-- Take a token that has to come next. -/
def expect (start : String) : Reader Unit := do
  unless ← eat start do fault

/-- Pass what cannot be read: a name, the rest of a line that a lone quote opens,
or one character. -/
def skipToken : Reader Unit := do
  let rest ← text
  let name := rest.takeWhile isNameChar
  match rest with
  | '\'' :: _ | '"' :: _ => token (rest.takeWhile fun c => !endsLineComment c).length
  | _ => token (max 1 name.length)

/-! ## Combining readers -/

/-- At most `bound` steps, until one of them says that it was the last. -/
def repeatUpTo : Nat → Reader Bool → Reader Unit
  | 0, _ => pure ()
  | bound + 1, step => do
      if ← step then repeatUpTo bound step

/-- Repeat a step until it says that it was the last. A step that goes on takes a
character, so the text bounds the number of steps. -/
def repeatWhile (step : Reader Bool) : Reader Unit := do
  repeatUpTo ((← text).length + 1) step

/-- Read what can be read without a fault, or nothing. -/
def attempt (reader : Reader Bool) : Reader Bool := do
  let before ← get
  set { before with recovering := false }
  let success ← reader
  if success && (← get).faults == before.faults then
    modify fun cursor => { cursor with recovering := before.recovering && cursor.recovering }
    return true
  else
    set before
    return false

/-- Whether a reader would succeed without a fault. Nothing is read. -/
def probe (reader : Reader Bool) : Reader Bool := do
  let before ← get
  let success ← attempt reader
  set before
  return success

/-- The nodes that a reader found, and the range it read. -/
structure Gathered where
  start : Nat
  stop : Nat
  nodes : List Node

/-- Run a reader and take what it finds. -/
def gather {α : Type} (reader : Reader α) : Reader (α × Gathered) := do
  let before ← get
  set { before with found := [] }
  let value ← reader
  let after ← get
  set { after with found := before.found }
  return (value, ⟨before.offset, after.offset, after.found.reverse⟩)

def pushNode (node : Node) : Reader Unit :=
  modify fun cursor => cursor.push node

/-- What a reader finds becomes the children of one node. -/
def enclose (kind : Kind) (reader : Reader Unit) : Reader Unit := do
  let (_, gathered) ← gather reader
  pushNode ⟨kind, gathered.start, gathered.stop, false, none, none, gathered.nodes⟩

/-- A reader that takes something, or a fault and a skipped token. -/
def insist (reader : Reader Unit) : Reader Unit := do
  let before := (← get).offset
  reader
  if (← get).offset = before then
    fault
    skipToken

/-- Items up to a closing token. A list ends early where a bracket or a semicolon
belongs to something around it. -/
def readItems (close : String) (strangers : List Char) (item : Reader Unit) : Reader Unit := do
  repeatWhile do
    if ← startsWith close then return false
    match ← next? with
    | none =>
        fault
        return false
    | some c =>
        if strangers.contains c then
          fault
          return false
        if ← eat "," then return true
        insist item
        unless (← startsWith ",") || (← startsWith close) do fault
        return true
  discard (eat close)

/-- The characters that end a list in brackets if they do not close it. -/
def strangers : List Char :=
  [')', ']', '\x7d', ';']

end CodeGloss.Script
