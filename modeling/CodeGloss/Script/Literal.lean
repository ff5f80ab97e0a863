import CodeGloss.Script.Cursor

/-!
# Literals of a script

Strings, numbers, patterns and templates. A string ends on its line unless a
backslash joins the next one to it. A string or template without an end is a
fault and no literal.
-/

namespace CodeGloss.Script

open Syntax

/-- The length of a string from behind its opening quote on. -/
def stringTail? (quote : Char) : List Char → Option Nat
  | [] => none
  | '\\' :: '\r' :: '\n' :: rest => (stringTail? quote rest).map (· + 3)
  | '\\' :: _ :: rest => (stringTail? quote rest).map (· + 2)
  | c :: rest =>
      if c = quote then some 1
      else if c = '\n' ∨ c = '\r' then none
      else (stringTail? quote rest).map (· + 1)

/-- Take a string whose tail has been measured. -/
def readMeasured (tail : Option Nat) : Reader Unit := do
  match tail with
  | some length =>
      let before := (← get).offset
      advance (length + 1)
      pushNode (.leaf .string before (← get).offset)
      settle
      passTrivia
  | none =>
      fault
      skipToken

/-- Read the string that comes next. -/
def readString : Reader Unit := do
  match ← text with
  | quote :: rest => readMeasured (stringTail? quote rest)
  | [] => fault

def isQuote (c : Char) : Bool :=
  c == '\'' || c == '"'

/-- Whether a string comes next. -/
def atString : Reader Bool := do
  return (← next?).any isQuote

/-- Whether a number may contain the character. -/
def isNumberChar (c : Char) : Bool :=
  c.isAlphanum || c == '_' || c == '.'

/-- The length of a number. A sign may follow the letter of its exponent. -/
def numberLength (text : List Char) : Nat :=
  let body := text.takeWhile isNumberChar
  let based := match body with
    | '0' :: letter :: _ => letter.isAlpha
    | _ => false
  let exponent := !based && body.getLast?.any fun c => c == 'e' || c == 'E'
  match text.drop body.length with
  | sign :: digits =>
      if exponent && (sign == '+' || sign == '-') then
        body.length + 1 + (digits.takeWhile isNumberChar).length
      else body.length
  | [] => body.length

/-- Whether a number comes next. -/
def atNumber : Reader Bool := do
  match ← text with
  | '.' :: c :: _ => return c.isDigit
  | c :: _ => return c.isDigit
  | [] => return false

def readNumber : Reader Unit := do
  token (numberLength (← text))
  settle

/-- The length of a pattern from behind its opening slash to its closing one. A
slash between square brackets does not close it. -/
def patternTail? (inClass : Bool) : List Char → Option Nat
  | [] => none
  | '\\' :: c :: rest => if c = '\n' then none else (patternTail? inClass rest).map (· + 2)
  | c :: rest =>
      if c = '\n' then none
      else if c = '/' ∧ inClass = false then some 1
      else
        let inClass := if c = '[' then true else if c = ']' then false else inClass
        (patternTail? inClass rest).map (· + 1)

/-- Read a pattern and its flags. -/
def readPattern : Reader Unit := do
  match patternTail? false ((← text).drop 1) with
  | some length =>
      advance (length + 1)
      token ((← text).takeWhile isNameChar).length
      settle
  | none =>
      fault
      token ((← text).takeWhile fun c => !endsLineComment c).length

/-- Read what follows the opener of a computed part, with its closing brace. -/
def readSubstitution (content : Reader Unit) : Reader Unit := do
  advance 2
  passTrivia
  repeatWhile do
    match ← next? with
    | none => return false
    | some c =>
        if c = '\x7d' then return false
        insist content
        unless ← startsWith "\x7d" do fault
        return true
  if ← startsWith "\x7d" then advance 1 else fault

/-- Read from behind the opening mark of a template to its closing one. Says
whether there is a closing one. -/
def readTemplateBody (substitution : Reader Unit) : Reader Bool := do
  repeatWhile do
    match ← text with
    | [] => return false
    | '\x60' :: _ => return false
    | '\\' :: _ :: _ =>
        advance 2
        return true
    | '$' :: '\x7b' :: _ =>
        substitution
        return true
    | _ :: _ =>
        advance 1
        return true
  if ← startsWith "\x60" then
    advance 1
    return true
  else return false

/-- Read a template. -/
def readTemplate (expression : Reader Unit) : Reader Unit := do
  let (closed, gathered) ← gather do
    advance 1
    readTemplateBody (enclose .substitution (readSubstitution expression))
  unless closed do fault
  let kind := if closed then Kind.template else Kind.error
  pushNode ⟨kind, gathered.start, gathered.stop, false, none, none, gathered.nodes⟩
  settle
  passTrivia

end CodeGloss.Script
