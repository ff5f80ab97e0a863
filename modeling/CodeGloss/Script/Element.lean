import CodeGloss.Script.TypeExpr

/-!
# Reading markup

An element has a tag with attributes, and content between its tags. Content is
text, elements, expressions in braces, and character references. Text that holds
nothing but a line break and blanks behind it is layout and is not found.
-/

namespace CodeGloss.Script

open Syntax Text

/-- Whether a tag or an attribute may have the character in its name. -/
def isTagNameChar (c : Char) : Bool :=
  isNameChar c || c == '-' || c == ':' || c == '.'

/-- Characters that end text between tags. -/
def endsElementText (c : Char) : Bool :=
  ['<', '>', '\x7b', '\x7d', '&'].contains c

/-- Blanks that may be layout. -/
def isLayoutBlank (c : Char) : Bool :=
  c == ' ' || ('\t' ≤ c && c ≤ '\r')

/-- Whether text has content: anything but blanks, or blanks that no line break
stands before. -/
def hasContent (afterBreak : Bool) : List Char → Bool
  | [] => false
  | c :: rest =>
      if c = '\n' then hasContent true rest
      else if afterBreak ∧ isLayoutBlank c then hasContent true rest
      else true

/-- The length of a character reference behind its ampersand. -/
def referenceTail? (rest : List Char) : Option Nat :=
  let (lead, allowed, most) : List Char × (Char → Bool) × Nat :=
    match rest with
    | '#' :: 'x' :: _ => (['#', 'x'], isHexDigit, 6)
    | '#' :: 'X' :: _ => (['#', 'X'], isHexDigit, 6)
    | '#' :: _ => (['#'], Char.isDigit, 5)
    | _ => ([], Char.isAlpha, 30)
  let body := (rest.drop lead.length).takeWhile allowed
  let ended := (rest.drop (lead.length + body.length)).head? == some ';'
  if ended && 0 < body.length && body.length ≤ most then some (lead.length + body.length + 1)
  else none

/-- The length of a string in an attribute from behind its opening quote on, and
whether its references are whole. It knows no backslash and may span lines. An
ampersand takes the character behind it along, even a quote, unless a reference
may start with that character. -/
def attributeTail? (quote : Char) (wellFormed : Bool) : List Char → Option (Nat × Bool)
  | [] => none
  | '&' :: tail@(c :: rest) =>
      if c = '#' ∨ c.isAlpha then
        (attributeTail? quote (wellFormed && (referenceTail? (c :: rest)).isSome) tail).map
          fun (length, wellFormed) => (length + 1, wellFormed)
      else
        (attributeTail? quote wellFormed rest).map
          fun (length, wellFormed) => (length + 2, wellFormed)
  | c :: rest =>
      if c = quote then some (1, wellFormed)
      else
        (attributeTail? quote wellFormed rest).map
          fun (length, wellFormed) => (length + 1, wellFormed)

/-- Read the string that is the value of an attribute. -/
def readAttributeString (quote : Char) (rest : List Char) : Reader Unit := do
  match attributeTail? quote true rest with
  | some (length, wellFormed) =>
      unless wellFormed do fault
      readMeasured (some length)
  | none => readMeasured none

/-- Read the name of a tag or an attribute. -/
def readTagName : Reader Unit := do
  token ((← text).takeWhile isTagNameChar).length

/-- Read braces and what they hold, up to the closing brace. -/
def readBraced (grammar : Grammar) : Reader Unit := do
  token 1
  repeatWhile do
    match ← next? with
    | none => return false
    | some c =>
        if c = '\x7d' then return false
        discard (eat "...")
        insist grammar.expression
        unless ← startsWith "\x7d" do fault
        return true
  if ← startsWith "\x7d" then advance 1 else fault

/-- Read the value of an attribute. A string is found as the attribute's own. -/
def readAttributeValue (grammar : Grammar) : Reader Unit := do
  match ← text with
  | [] => fault
  | c :: rest =>
      if isQuote c then enclose .attribute (readAttributeString c rest)
      else if c = '\x7b' then
        readBraced grammar
        passTrivia
      else if c = '<' then
        grammar.read .element
        passTrivia
      else fault

/-- Read an attribute. -/
def readAttribute (grammar : Grammar) : Reader Unit := do
  if ← startsWith "\x7b" then
    readBraced grammar
    passTrivia
  else
    readTagName
    if ← eat "=" then readAttributeValue grammar

/-- Read one part of the content of an element. -/
def readContent (grammar : Grammar) : Reader Bool := do
  match ← text with
  | [] => return false
  | '<' :: '/' :: _ => return false
  | '<' :: _ =>
      grammar.read .element
      return true
  | '\x7b' :: _ =>
      readBraced grammar
      return true
  | '&' :: rest =>
      match referenceTail? rest with
      | some length => advance (length + 1)
      | none =>
          fault
          advance 1
      return true
  | c :: rest =>
      if endsElementText c then
        fault
        advance 1
      else
        let body := c :: rest.takeWhile fun c => !endsElementText c
        let start := (← get).offset
        advance body.length
        if hasContent false body then
          pushNode (.leaf .markupText start (← get).offset)
          settle
      return true

/-- Read the content of an element and its closing tag. -/
def readContents (grammar : Grammar) : Reader Unit := do
  repeatWhile (readContent grammar)
  if ← startsWith "</" then
    token 2
    readTagName
    if ← startsWith ">" then advance 1 else fault
  else fault

/-- Read an element, up to the end of its last tag. -/
def readElement (grammar : Grammar) : Reader Unit := do
  token 1
  settle
  readTagName
  if ← startsWith "<" then readAngles grammar
  repeatWhile do
    if (← startsWith ">") || (← startsWith "/>") || (← text).isEmpty then return false
    insist (readAttribute grammar)
    return true
  if ← startsWith "/>" then advance 2
  else if ← startsWith ">" then
    advance 1
    readContents grammar
  else fault

end CodeGloss.Script
