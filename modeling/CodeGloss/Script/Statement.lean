import CodeGloss.Script.Expression

/-!
# Reading statements

A statement ends with a semicolon, at the end of its line, at a closing brace or
at the end of the script. Statements that load or hand on another module name it
by a string, which is found apart from other strings.
-/

namespace CodeGloss.Script

open Syntax

/-- The end of a statement. -/
def endStatement : Reader Unit := do
  unless ← eat ";" do
    let cursor ← get
    unless cursor.lineBreak || cursor.rest.isEmpty || (← startsWith "\x7d") do fault

/-- An expression in round brackets, as conditions are. -/
def readCondition (grammar : Grammar) : Reader Unit := do
  if ← startsWith "(" then readParameters grammar else fault

/-- What a declaration binds: a name, or names in brackets. -/
def readBinding (grammar : Grammar) : Reader Unit := do
  if ← startsWith "\x7b" then grammar.read (.members .object)
  else if ← startsWith "[" then readList grammar
  else
    let name := nameAt (← text)
    if name.isEmpty || reservedNames.contains (String.ofList name) then fault
    else
      token name.length
      settle

/-- Bindings with their types and values. -/
def readBindings (grammar : Grammar) : Reader Unit := do
  let one : Reader Unit := do
    readBinding grammar
    discard (eat "!")
    readAnnotation grammar
    if ← eat "=" then grammar.assignment
  one
  repeatWhile do
    if ← eat "," then
      one
      return true
    else return false

/-- Names that declare variables. -/
def bindingNames : List String :=
  ["var", "let", "const", "using"]

/-- Whether a name declares variables: something to bind follows it. -/
def declaresBindings : Reader Bool := do
  let name ← nextName
  let after ← aheadOfName
  let operators := if name = "let" then ["in", "instanceof"] else operatorNames
  return ["var", "const"].contains name
    || bindingNames.contains name
      && (after.startsName || after.rest.head? == some '\x7b' || after.rest.head? == some '[')
      && !operators.contains (String.ofList (nameAt after.rest))

/-- The head of a loop. -/
def readLoopHead (grammar : Grammar) : Reader Unit := do
  discard (eatName "await")
  if ← startsWith "(" then
    token 1
    repeatWhile do
      match ← next? with
      | none => return false
      | some c =>
          if c = ')' then return false
          if (← eat ";") || (← eat ",") then return true
          if (← eatName "of") || (← eatName "in") then return true
          if ← declaresBindings then
            token (← nextName).length
            readBindings grammar
          else insist grammar.expression
          return true
    expect ")"
  else fault

/-- An alternative of a selection, up to its colon. -/
def readAlternative (grammar : Grammar) : Reader Unit := do
  if ← eatName "default" then expect ":"
  else
    token "case".length
    grammar.expression
    expect ":"

/-- A guarded block and what handles its failures. -/
def readGuarded (grammar : Grammar) : Reader Unit := do
  token "try".length
  readOptionalBlock grammar
  if ← eatName "catch" then
    if ← startsWith "(" then readParameters grammar
    readOptionalBlock grammar
  if ← eatName "finally" then readOptionalBlock grammar

/-- Names in braces that are exchanged with a module. -/
def readExchangedNames : Reader Unit := do
  enclose .other do
    token 1
    readItems "\x7d" [';', ')', ']'] do
      repeatWhile do
        if ← atString then
          readString
          return true
        let name := nameAt (← text)
        token name.length
        return !name.isEmpty

/-- The name of a module and its attributes. The answer says how many nodes were
found before the name. -/
def readModule (grammar : Grammar) : Reader (Option Nat) := do
  if ← atString then
    let index := (← get).found.length
    readString
    if (← eatName "with") || (← eatName "assert") then
      if ← startsWith "\x7b" then enclose .other (grammar.read (.members .object))
    return some index
  else
    fault
    return none

/-- A statement of a kind whose reader says where the name of a module is. -/
def readModuleStatement (kind : Kind) (reader : Reader (Option Nat)) : Reader Unit := do
  let (index, gathered) ← gather reader
  pushNode ⟨kind, gathered.start, gathered.stop, false, index, none, gathered.nodes⟩

/-- What is exchanged with a module, up to its name. -/
def readExchange : Reader Unit := do
  repeatWhile do
    if ← atString then return false
    if ← startsWith "\x7b" then
      readExchangedNames
      return true
    if (← eat "*") || (← eat ",") then return true
    let name := nameAt (← text)
    token name.length
    return !name.isEmpty

/-- The value of a name that stands for a module or a part of one. -/
def readModuleAlias (grammar : Grammar) : Reader Unit :=
  enclose .other do
    if (← nextName) = "require" then
      token "require".length
      if ← startsWith "(" then readParameters grammar
    else grammar.expression

/-- A statement that loads a module, from its keyword on. -/
def readImport (grammar : Grammar) : Reader Unit := do
  readModuleStatement .importStatement do
    token "import".length
    settle
    readExchange
    let index ← if ← eat "=" then
        readModuleAlias grammar
        pure none
      else readModule grammar
    endStatement
    return index

/-- Whether the keyword of an import starts a statement and not an expression. -/
def startsImport : Reader Bool := do
  let after ← aheadOfName
  return (← nextName) = "import" && !(after.rest.head? == some '(' || after.rest.head? == some '.')

/-- Whether names are handed on from here. -/
def atExchange : Reader Bool := do
  if (← startsWith "\x7b") || (← startsWith "*") then return true
  let after := (← aheadOfName).rest.head?
  return (← nextName) = "type" && (after == some '\x7b' || after == some '*')

/-- A statement that hands something on, from its keyword on. -/
def readExport (grammar : Grammar) : Reader Unit := do
  readModuleStatement .exportStatement do
    token "export".length
    settle
    if ← eat "=" then
      grammar.expression
      endStatement
      return none
    if ← eatName "default" then
      if ["function", "class", "async", "abstract", "interface"].contains (← nextName)
          || (← startsWith "@") then
        grammar.read .statement
      else
        grammar.expression
        endStatement
      return none
    if ← atExchange then
      readExchange
      let index ← if ← atString then readModule grammar else pure none
      endStatement
      return index
    if ← eatName "as" then
      discard (eatName "namespace")
      token (nameAt (← text)).length
      endStatement
      return none
    if ← startsImport then readImport grammar
    else grammar.read .statement
    return none

/-- An interface from its keyword on. -/
def readInterface (grammar : Grammar) : Reader Unit := do
  token "interface".length
  token (nameAt (← text)).length
  settle
  readOptionalAngles grammar
  if ← eatName "extends" then readTypeList grammar
  if ← startsWith "\x7b" then grammar.read (.members .type) else fault

/-- A name for a type, from its keyword on. -/
def readTypeAlias (grammar : Grammar) : Reader Unit := do
  token "type".length
  token (nameAt (← text)).length
  settle
  readOptionalAngles grammar
  expect "="
  grammar.type
  endStatement

/-- An enumeration from its keyword on. -/
def readEnum (grammar : Grammar) : Reader Unit := do
  token "enum".length
  token (nameAt (← text)).length
  settle
  if ← startsWith "\x7b" then grammar.read (.members .object) else fault

/-- A namespace or a module from its keyword on. -/
def readNamespace (grammar : Grammar) : Reader Unit := do
  token (← nextName).length
  settle
  repeatWhile do
    if ← atString then
      readString
      return true
    let name := nameAt (← text)
    if name.isEmpty || (← get).lineBreak then eat "."
    else
      token name.length
      discard (eat ".")
      return true
  if ← startsWith "\x7b" then grammar.read .block else endStatement

/-- Read a statement about types, if one comes next. -/
def readTypeStatement (grammar : Grammar) : Reader Bool := do
  if !grammar.dialect.annotations then return false
  let name ← nextName
  let after ← aheadOfName
  let named := after.startsName && !after.lineBreak
    && !operatorNames.contains (String.ofList (nameAt after.rest))
  match name with
  | "interface" =>
      if named then readInterface grammar
      return named
  | "type" =>
      if named then readTypeAlias grammar
      return named
  | "enum" =>
      readEnum grammar
      return true
  | "namespace" =>
      if named then readNamespace grammar
      return named
  | "module" =>
      let named := (named || after.rest.head?.any isQuote) && !after.lineBreak
      if named then readNamespace grammar
      return named
  | "declare" | "abstract" =>
      if named then
        token name.length
        grammar.read .statement
      return named
  | "global" =>
      if after.rest.head? == some '\x7b' then
        token name.length
        grammar.read .block
        return true
      return false
  | _ => return false

/-- Read an expression that is a statement, or a label. -/
def readExpressionStatement (grammar : Grammar) : Reader Unit := do
  let name ← nextName
  if !name.isEmpty && !reservedNames.contains name && (← aheadOfName).rest.head? == some ':' then
    token name.length
    token 1
  else
    grammar.expression
    endStatement

/-- Read the statement that a keyword starts, if one comes next. -/
def readKeywordStatement (grammar : Grammar) : Reader Bool := do
  let name ← nextName
  let after ← aheadOfName
  if ← declaresBindings then
    token name.length
    if name = "const" && (← nextName) = "enum" then readEnum grammar
    else
      readBindings grammar
      endStatement
    return true
  match name with
  | "function" =>
      readFunction grammar
      return true
  | "async" =>
      if String.ofList (nameAt after.rest) = "function" && !after.lineBreak then
        token name.length
        readFunction grammar
        return true
      return false
  | "class" =>
      readClass grammar
      return true
  | "if" | "while" | "with" | "switch" =>
      token name.length
      readCondition grammar
      grammar.read .statement
      if name = "if" then
        if ← eatName "else" then grammar.read .statement
      return true
  | "for" =>
      token name.length
      readLoopHead grammar
      grammar.read .statement
      return true
  | "do" =>
      token name.length
      grammar.read .statement
      if ← eatName "while" then readCondition grammar
      discard (eat ";")
      return true
  | "try" =>
      readGuarded grammar
      return true
  | "return" | "throw" =>
      token name.length
      let cursor ← get
      unless cursor.lineBreak || cursor.rest.isEmpty || (← startsWith ";")
          || (← startsWith "\x7d") do
        grammar.expression
      endStatement
      return true
  | "break" | "continue" | "debugger" =>
      token name.length
      unless (← get).lineBreak do token (nameAt (← text)).length
      endStatement
      return true
  | "case" | "default" =>
      readAlternative grammar
      return true
  | "import" =>
      if ← startsImport then
        readImport grammar
        return true
      return false
  | "export" =>
      readExport grammar
      return true
  | _ => readTypeStatement grammar

/-- Whether a brace opens an object: a quoted name and a colon follow it. -/
def startsObject : Reader Bool :=
  probe do
    token 1
    if ← atString then
      readString
      startsWith ":"
    else return false

/-- Read a statement. -/
def readStatement (grammar : Grammar) : Reader Unit := do
  match ← text with
  | '\x7b' :: _ =>
      if ← startsObject then readExpressionStatement grammar else grammar.read .block
  | ';' :: _ => token 1
  | '@' :: _ => readDecorators grammar
  | '<' :: '!' :: '-' :: '-' :: _ | '-' :: '-' :: '>' :: _ =>
      token ((← text).takeWhile fun c => !isLineBreak c).length
  | _ =>
      unless ← readKeywordStatement grammar do readExpressionStatement grammar

/-- Read statements in braces. -/
def readBlock (grammar : Grammar) : Reader Unit := do
  token 1
  settle
  repeatWhile do
    if (← text).isEmpty || (← startsWith "\x7d") then return false
    insist (grammar.read .statement)
    return true
  expect "\x7d"

/-- Read statements to the end. -/
def readStatements (grammar : Grammar) : Reader Unit := do
  repeatWhile do
    if (← text).isEmpty then return false
    insist (grammar.read .statement)
    return true

end CodeGloss.Script
