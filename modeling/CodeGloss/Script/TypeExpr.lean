import CodeGloss.Script.Grammar

/-!
# Reading types

Types are read for the strings in them. The fixed text of a template among types
is part of the type and is not found; strings in its computed parts are.
-/

namespace CodeGloss.Script

/-- Names that stand before a type and belong to it. -/
def typePrefixes : List String :=
  ["keyof", "typeof", "unique", "readonly", "infer", "asserts", "abstract", "new", "accessor"]

/-- Characters that may start a type behind such a name. -/
def startsTypeChar (c : Char) : Bool :=
  isNameChar c || isQuote c || ['(', '[', '\x7b', '\x60', '<', '-'].contains c

/-- Whether a name may stand for a type. One reserved name stands for the exact
type of a value. -/
def isTypeName (name : String) : Bool :=
  !name.isEmpty && (name = "const" || !reservedNames.contains name)

/-- Type arguments or parameters in angle brackets. -/
def readAngles (grammar : Grammar) : Reader Unit := do
  token 1
  readItems ">" ('=' :: strangers) do
    repeatWhile do
      if ["const", "in", "out"].contains (← nextName) && (← aheadOfName).startsName then
        token (← nextName).length
        return true
      else return false
    grammar.type
    if ← eat "=" then grammar.type

/-- An item of a tuple or of the parameters of a function type. -/
def readTypeItem (grammar : Grammar) : Reader Unit := do
  discard (eat "...")
  grammar.type
  discard (eat "?")
  if ← eat ":" then grammar.type

/-- Read a name with the names of its parts, and its arguments. -/
def readTypeName (grammar : Grammar) : Reader Unit := do
  token (← nextName).length
  settle
  repeatWhile do
    if (← startsWith ".") && !(← startsWith "...") then
      token 1
      token (nameAt (← text)).length
      return true
    else return false
  if (← startsWith "<") && !(← get).lineBreak then readAngles grammar

/-- A type without operators and without what may follow it. -/
def readTypeTerm (grammar : Grammar) : Reader Unit := do
  repeatWhile do
    let name ← nextName
    let after ← aheadOfName
    if typePrefixes.contains name && after.rest.head?.any startsTypeChar && !after.lineBreak
        && !(["is", "extends", "in"].contains (String.ofList (nameAt after.rest))) then
      token name.length
      return true
    else eat "-"
  if ← startsWith "<" then readAngles grammar
  match ← next? with
  | none => fault
  | some c =>
      if isQuote c then readString
      else if c = '\x60' then
        advance 1
        unless ← readTemplateBody (readSubstitution grammar.type) do fault
        settle
        passTrivia
      else if c.isDigit then readNumber
      else if c = '\x7b' then grammar.read (.members .type)
      else if c = '[' then
        token 1
        settle
        readItems "]" strangers (readTypeItem grammar)
      else if c = '(' then
        token 1
        settle
        readItems ")" strangers (readTypeItem grammar)
        if ← eat "=>" then grammar.type
      else if (← nextName) = "import" then readLoadingCall grammar .importKeyword (pure ())
      else if isTypeName (← nextName) then readTypeName grammar
      else fault

/-- Read what may follow a type: brackets, and names of parts. -/
def readTypeSuffix (grammar : Grammar) : Reader Bool := do
  if (← get).lineBreak then return false
  if ← eat "[" then
    unless ← startsWith "]" do grammar.type
    expect "]"
    return true
  if (← startsWith ".") && !(← startsWith "...") then
    token 1
    token (nameAt (← text)).length
    if ← startsWith "<" then readAngles grammar
    return true
  return false

/-- A type without operators. -/
def readTypeOperand (grammar : Grammar) : Reader Unit := do
  readTypeTerm grammar
  repeatWhile (readTypeSuffix grammar)

/-- Whether one of the two operators that join types comes next. -/
def atTypeOperator : Reader Bool := do
  match ← text with
  | '|' :: '|' :: _ => return false
  | '&' :: '&' :: _ => return false
  | '|' :: _ => return true
  | '&' :: _ => return true
  | _ => return false

/-- Read a type. -/
def readType (grammar : Grammar) : Reader Unit := do
  if ← atTypeOperator then token 1
  readTypeOperand grammar
  repeatWhile do
    if ← atTypeOperator then
      token 1
      readTypeOperand grammar
      return true
    if (← nextName) = "is" && !(← get).lineBreak then
      token 2
      readTypeOperand grammar
      return true
    if ← eatName "extends" then
      grammar.type
      if ← eat "?" then
        grammar.type
        expect ":"
        grammar.type
      return true
    return false

end CodeGloss.Script
