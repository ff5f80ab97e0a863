import CodeGloss.Script.Literal

/-!
# The constructs of a script

Statements, expressions, types and markup contain each other. Each construct is
read with the help of readers for the constructs inside it, and those come from
a grammar. A dialect says whether scripts may hold markup and type annotations.
-/

namespace CodeGloss.Script

structure Dialect where
  markup : Bool
  annotations : Bool
  deriving DecidableEq, Repr

/-- What an expression stands in, as far as its end depends on it. -/
structure Surroundings where
  /-- Between the two marks of a choice a colon ends the expression. -/
  inChoice : Bool
  /-- In a list of parameters a question mark may say that one is optional. -/
  inParameters : Bool
  deriving DecidableEq, Repr

def Surroundings.plain : Surroundings :=
  ⟨false, false⟩

/-- What the braces of a list of members belong to. -/
inductive MemberOwner where
  /-- A value: a colon stands before an expression. -/
  | object
  /-- A class: a colon stands before a type. -/
  | ofClass
  /-- A type: a colon stands before a type, and there are no bodies. -/
  | type
  deriving DecidableEq, Repr

/-- The constructs that may contain each other. -/
inductive Construct where
  | statement
  /-- Statements in braces. -/
  | block
  /-- An expression without commas on its top level. -/
  | assignment (surroundings : Surroundings)
  | type
  /-- An element in tags, up to the end of its last tag. -/
  | element
  /-- Members in braces. -/
  | members (owner : MemberOwner)
  deriving DecidableEq, Repr

/-- Readers for the constructs inside another one. -/
structure Grammar where
  dialect : Dialect
  read : Construct → Reader Unit

namespace Grammar

def assignment (grammar : Grammar) : Reader Unit :=
  grammar.read (.assignment .plain)

def type (grammar : Grammar) : Reader Unit :=
  grammar.read .type

/-- Expressions between commas. -/
def expression (grammar : Grammar) : Reader Unit := do
  grammar.assignment
  repeatWhile do
    if ← eat "," then
      grammar.assignment
      return true
    else return false

end Grammar

/-- Names that no value can have. -/
def reservedNames : List String :=
  ["break", "case", "catch", "const", "continue", "debugger", "default", "do", "else", "enum",
   "export", "extends", "finally", "for", "if", "in", "instanceof", "return", "switch", "throw",
   "try", "var", "while", "with"]

/-- Names that stand between two operands. -/
def operatorNames : List String :=
  ["in", "instanceof", "of", "as", "satisfies", "extends", "implements"]

/-- Characters that may start an operand. -/
def startsOperandChar (c : Char) : Bool :=
  isNameChar c || isQuote c
    || ['(', '[', '\x7b', '\x60', '/', '<', '+', '-', '!', '~', '@', '#'].contains c

/-- Whether an operand may start here. -/
def Cursor.startsOperand (cursor : Cursor) : Bool :=
  cursor.rest.head?.any startsOperandChar
    && !operatorNames.contains (String.ofList (nameAt cursor.rest))

/-- Whether a name starts here. -/
def Cursor.startsName (cursor : Cursor) : Bool :=
  !(nameAt cursor.rest).isEmpty

/-- Read the arguments of a call. An argument that is a string and nothing else
stands apart from one that contains strings. -/
def readArguments (grammar : Grammar) : Reader Unit := do
  token 1
  settle
  readItems ")" strangers do
    let alone ← attempt do
      if ← atString then
        readString
        return (← startsWith ",") || (← startsWith ")")
      else return false
    unless alone do
      enclose .other do
        discard (eat "...")
        grammar.assignment

/-- Read a call that loads a module: the name that is called, what stands between
it and the arguments, and the arguments. -/
def readLoadingCall (grammar : Grammar) (kind : Syntax.Kind) (between : Reader Unit) :
    Reader Unit := do
  let (_, gathered) ← gather do
    let start := (← get).offset
    advance (nameAt (← text)).length
    pushNode (.leaf kind start (← get).offset)
    passTrivia
    between
    if ← startsWith "(" then enclose .arguments (readArguments grammar) else fault
  pushNode ⟨.call, gathered.start, gathered.stop, false, none, some 0, gathered.nodes⟩

end CodeGloss.Script
