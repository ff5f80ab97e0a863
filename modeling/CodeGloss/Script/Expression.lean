import CodeGloss.Script.TypeExpr

/-!
# Reading expressions

An expression is a chain of operands with operators between them. Which operator
binds tighter does not matter for the text in it, but what may stand where does:
where an operand has to come, a slash opens a pattern and an angle bracket opens
markup; behind an operand they are operators.
-/

namespace CodeGloss.Script

/-- The operators between two operands. Of two that fit the longer one comes
first. -/
def binaryOperators : List String :=
  [">>>=", "===", "!==", "**=", "<<=", ">>=", ">>>", "&&=", "||=", "??=", "==", "!=", "<=", ">=",
   "&&", "||", "??", "**", "<<", ">>", "+=", "-=", "*=", "/=", "%=", "&=", "|=", "^=", "+", "-",
   "*", "/", "%", "<", ">", "&", "|", "^", "="]

/-- The operator at the start of a text. -/
def binaryOperator? (rest : List Char) : Option String :=
  if "=>".toList.isPrefixOf rest then none
  else binaryOperators.find? fun operator => operator.toList.isPrefixOf rest

/-- Names that stand before an operand. -/
def operandPrefixes : List String :=
  ["typeof", "void", "delete", "await", "yield"]

/-- Names that may stand before a parameter. -/
def parameterModifiers : List String :=
  ["public", "private", "protected", "readonly", "override"]

/-- Pass modifiers, which are names that do not name the thing itself. -/
def skipModifiers (modifiers : List String) : Reader Unit := do
  repeatWhile do
    let after ← aheadOfName
    if modifiers.contains (← nextName)
        && (after.startsName || after.rest.head? == some '\x7b' || after.rest.head? == some '[') then
      token (← nextName).length
      return true
    else return false

/-- An item of a list. -/
def readListItem (grammar : Grammar) : Reader Unit := do
  discard (eat "...")
  grammar.assignment

/-- A list in square brackets. -/
def readList (grammar : Grammar) : Reader Unit := do
  token 1
  settle
  readItems "]" strangers (readListItem grammar)

/-- Whether what follows type arguments lets them be such. -/
def endsTypeArguments : Reader Bool := do
  return (← startsWith "(") || (← startsWith "\x60") || (← startsWith "\x7b")
    || !(← get).startsOperand

/-- Take what stands behind an operand and belongs to it. -/
def readSuffix (grammar : Grammar) : Reader Bool := do
  let cursor ← get
  match cursor.rest with
  | '.' :: '.' :: _ => return false
  | '.' :: _ =>
      token 1
      discard (eat "#")
      if (nameAt (← text)).isEmpty then fault
      token (nameAt (← text)).length
      return true
  | '?' :: '.' :: c :: _ =>
      if c.isDigit then return false
      token 2
      discard (eat "#")
      token (nameAt (← text)).length
      return true
  | '[' :: _ =>
      readList grammar
      return true
  | '(' :: _ =>
      enclose .other (readArguments grammar)
      return true
  | '\x60' :: _ =>
      readTemplate grammar.expression
      return true
  | '!' :: c :: _ =>
      if !grammar.dialect.annotations || cursor.lineBreak || c == '=' then return false
      token 1
      return true
  | '!' :: [] => eat "!"
  | '+' :: '+' :: _ =>
      if cursor.lineBreak then return false
      eat "++"
  | '-' :: '-' :: _ =>
      if cursor.lineBreak then return false
      eat "--"
  | '<' :: _ =>
      if grammar.dialect.annotations then
        attempt do
          readAngles grammar
          endsTypeArguments
      else return false
  | _ => return false

/-- What stands between an operand and the operators around it. -/
def readSuffixes (grammar : Grammar) : Reader Unit :=
  repeatWhile (readSuffix grammar)

/-- Decorators before what they decorate. -/
def readDecorators (grammar : Grammar) : Reader Unit := do
  repeatWhile do
    if ← eat "@" then
      if ← startsWith "(" then readArguments grammar
      else if (← get).startsName then token (← nextName).length
      else
        fault
        return true
      settle
      readSuffixes grammar
      return true
    else return false

/-- A parameter or an item in round brackets, which may turn out to be one. -/
def readParameter (grammar : Grammar) : Reader Unit := do
  readDecorators grammar
  discard (eat "...")
  skipModifiers parameterModifiers
  grammar.read (.assignment ⟨false, true⟩)
  if grammar.dialect.annotations then
    discard (eat "?")
    if ← eat ":" then
      grammar.type
      if ← eat "=" then grammar.assignment

/-- A list in round brackets that may be a list of parameters. -/
def readParameters (grammar : Grammar) : Reader Unit := do
  token 1
  settle
  readItems ")" strangers (readParameter grammar)

/-- A type behind a colon, if there is one. -/
def readAnnotation (grammar : Grammar) : Reader Unit := do
  if grammar.dialect.annotations then
    if ← eat ":" then grammar.type

/-- Type parameters or arguments, if there are any. -/
def readOptionalAngles (grammar : Grammar) : Reader Unit := do
  if grammar.dialect.annotations then
    if ← startsWith "<" then readAngles grammar

/-- Statements in braces, if there are any. -/
def readOptionalBlock (grammar : Grammar) : Reader Unit := do
  if ← startsWith "\x7b" then grammar.read .block

/-- A function from its parameters on. -/
def readFunctionTail (grammar : Grammar) : Reader Unit := do
  readOptionalAngles grammar
  if ← startsWith "(" then readParameters grammar else fault
  readAnnotation grammar
  readOptionalBlock grammar

/-- A function from its keyword on. -/
def readFunction (grammar : Grammar) : Reader Unit := do
  token "function".length
  settle
  discard (eat "*")
  token (nameAt (← text)).length
  readFunctionTail grammar

/-- The type of an arrow function's result, if an arrow follows it. -/
def readArrowAnnotation (grammar : Grammar) (surroundings : Surroundings) : Reader Unit := do
  if grammar.dialect.annotations && !surroundings.inChoice then
    if ← startsWith ":" then
      discard (attempt do
        token 1
        grammar.type
        startsWith "=>")

/-- Round brackets: a value, or the parameters of an arrow function. -/
def readParenthesized (grammar : Grammar) (surroundings : Surroundings) : Reader Unit := do
  readParameters grammar
  readArrowAnnotation grammar surroundings

/-- An arrow function with type parameters, up to its arrow. -/
def readGenericArrow (grammar : Grammar) (surroundings : Surroundings) : Reader Bool := do
  readAngles grammar
  if ← startsWith "(" then
    readParenthesized grammar surroundings
    startsWith "=>"
  else return false

/-- Whether the name that comes next is called, perhaps with type arguments. -/
def isCalled (grammar : Grammar) : Reader Bool :=
  probe do
    token (nameAt (← text)).length
    discard (eat "?.")
    readOptionalAngles grammar
    startsWith "("

/-- The kind of a name that loads a module when it is called. -/
def loadingKind? : String → Option Syntax.Kind
  | "import" => some .importKeyword
  | "require" => some .identifier
  | _ => none

/-- The types behind the keywords of a class's head. -/
def readTypeList (grammar : Grammar) : Reader Unit := do
  grammar.type
  repeatWhile do
    if ← eat "," then
      grammar.type
      return true
    else return false

/-- Take what stands before an operand. -/
def readOperandPrefix (grammar : Grammar) : Reader Bool := do
  let name ← nextName
  if !name.isEmpty then
    let after ← aheadOfName
    if operandPrefixes.contains name && after.startsOperand && !after.lineBreak
        || name = "async" && after.startsName && after.startsOperand && !after.lineBreak then
      token name.length
      return true
    else return false
  if ← startsWith "<!--" then
    token ((← text).takeWhile fun c => !isLineBreak c).length
    return true
  if (← startsWith "<") && grammar.dialect.annotations && !grammar.dialect.markup then
    if ← probe (readGenericArrow grammar .plain) then return false
    readAngles grammar
    return true
  for operator in ["++", "--", "+", "-", "!", "~", "..."] do
    if ← eat operator then return true
  return false

/-- A class from its keyword on. -/
def readClass (grammar : Grammar) : Reader Unit := do
  token "class".length
  settle
  unless ["extends", "implements"].contains (← nextName) do
    token (nameAt (← text)).length
  readOptionalAngles grammar
  if ← eatName "extends" then
    grammar.assignment
    readOptionalAngles grammar
  if ← eatName "implements" then readTypeList grammar
  if ← startsWith "\x7b" then grammar.read (.members .ofClass) else fault

/-- Read the operand that comes next. Says whether there is one. `constructed`
says that the operand is called as a constructor. -/
def readPrimary (grammar : Grammar) (surroundings : Surroundings) (constructed : Bool) :
    Reader Bool := do
  match ← next? with
  | none =>
      fault
      return false
  | some c =>
      let name ← nextName
      if !name.isEmpty then
        if reservedNames.contains name then
          fault
          return false
        if name = "function" then readFunction grammar
        else if name = "class" then readClass grammar
        else if name = "async" && (← isCalled grammar) then
          token name.length
          readOptionalAngles grammar
          readParenthesized grammar surroundings
        else
          match loadingKind? name with
          | some kind =>
              if !constructed && (← isCalled grammar) then
                readLoadingCall grammar kind do
                  discard (eat "?.")
                  readOptionalAngles grammar
              else token name.length
          | none => token name.length
        settle
      else if isQuote c then readString
      else if c = '\x60' then readTemplate grammar.expression
      else if ← atNumber then readNumber
      else if c = '(' then readParenthesized grammar surroundings
      else if c = '[' then readList grammar
      else if c = '\x7b' then grammar.read (.members .object)
      else if c = '/' then readPattern
      else if c = '@' then
        readDecorators grammar
        if (← nextName) = "class" then readClass grammar
      else if c = '#' then
        token 1
        token (nameAt (← text)).length
      else if c = '<' then
        unless grammar.dialect.annotations && (← attempt (readGenericArrow grammar surroundings)) do
          grammar.read .element
          passTrivia
      else
        fault
        return false
      return true

/-- Whether an operand comes next that is called as a constructor. -/
def atConstruction : Reader Bool := do
  return (← nextName) = "new" && (← aheadOfName).rest.head? != some '.'

/-- Read an operand with what belongs to it. -/
def readOperand (grammar : Grammar) (surroundings : Surroundings) : Reader Unit := do
  repeatWhile (readOperandPrefix grammar)
  let constructed ← atConstruction
  repeatWhile do
    if ← atConstruction then eatName "new" else return false
  if ← readPrimary grammar surroundings constructed then readSuffixes grammar

/-- Whether a question mark says that a parameter is optional. -/
def marksOptional : Reader Bool := do
  match (← ahead 1).rest.head? with
  | none => return true
  | some c => return [':', ',', ')', '='].contains c

/-- Read an operator and what belongs to it. -/
def readOperation (grammar : Grammar) (surroundings : Surroundings) : Reader Bool := do
  let cursor ← get
  let name ← nextName
  if ["in", "instanceof"].contains name then
    token name.length
    readOperand grammar surroundings
    return true
  if grammar.dialect.annotations && ["as", "satisfies"].contains name && !cursor.lineBreak then
    token name.length
    grammar.type
    return true
  if (← startsWith "=>") && !cursor.lineBreak then
    token 2
    if ← startsWith "\x7b" then grammar.read .block
    else grammar.read (.assignment surroundings)
    return false
  match binaryOperator? cursor.rest with
  | some operator =>
      token operator.length
      readOperand grammar surroundings
      return true
  | none =>
      unless ← startsWith "?" do return false
      if surroundings.inParameters && (← marksOptional) then return false
      token 1
      grammar.read (.assignment ⟨true, false⟩)
      expect ":"
      grammar.read (.assignment surroundings)
      return true

/-- Read an expression without commas on its top level. -/
def readAssignment (grammar : Grammar) (surroundings : Surroundings) : Reader Unit := do
  readOperand grammar surroundings
  repeatWhile (readOperation grammar surroundings)

end CodeGloss.Script
