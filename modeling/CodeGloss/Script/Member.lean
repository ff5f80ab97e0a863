import CodeGloss.Script.Expression

/-!
# Reading members

Objects, classes and types list members in braces. A member has a name, and then
parameters and a body, or a type, or a value.
-/

namespace CodeGloss.Script

/-- Names that may stand before the name of a member. -/
def memberModifiers : List String :=
  ["public", "private", "protected", "static", "abstract", "override", "readonly", "declare",
   "async", "get", "set", "accessor", "const"]

/-- Whether the text may start the name of a member, or what stands before it. -/
def startsMemberName (rest : List Char) : Bool :=
  rest.head?.any fun c => isNameChar c || isQuote c || ['[', '#', '*', '\x7b'].contains c

/-- Pass what stands before the name of a member. -/
def skipMemberModifiers : Reader Unit := do
  repeatWhile do
    let name ← nextName
    if memberModifiers.contains name && startsMemberName (← aheadOfName).rest then
      token name.length
      return true
    if ← eat "*" then return true
    if ← eat "+" then return true
    eat "-"

/-- A name in square brackets: an expression, or the name of an index and its type,
or a name that runs over the members of a type. -/
def readBracketedName (grammar : Grammar) (owner : MemberOwner) : Reader Unit := do
  token 1
  settle
  if owner = .type then grammar.type else grammar.assignment
  repeatWhile do
    if ← eat ":" then
      grammar.type
      return true
    if owner = .type then
      if (← eatName "in") || (← eatName "as") then
        grammar.type
        return true
    return false
  expect "]"

/-- Read the name of a member. -/
def readMemberName (grammar : Grammar) (owner : MemberOwner) : Reader Unit := do
  if ← atString then readString
  else if ← atNumber then readNumber
  else if ← startsWith "[" then readBracketedName grammar owner
  else
    discard (eat "#")
    let name := nameAt (← text)
    unless name.isEmpty do
      token name.length
      settle

/-- Pass marks behind the name of a member. -/
def skipMemberMarks : Reader Unit := do
  discard (eat "-")
  discard (eat "+")
  if ← eat "?" then return
  discard (eat "!")

/-- Read what follows the name of a member. -/
def readMemberTail (grammar : Grammar) (owner : MemberOwner) : Reader Unit := do
  skipMemberMarks
  if (← startsWith "(") || (← startsWith "<") then
    readFunctionTail grammar
  else
    if ← eat ":" then
      if owner = .object then grammar.assignment else grammar.type
    if ← eat "=" then grammar.assignment

/-- Read a member. -/
def readMember (grammar : Grammar) (owner : MemberOwner) : Reader Unit := do
  if ← eat "..." then grammar.assignment
  else
    readDecorators grammar
    skipMemberModifiers
    if ← startsWith "\x7b" then grammar.read .block
    else
      readMemberName grammar owner
      readMemberTail grammar owner

/-- Read members in braces. -/
def readMembers (grammar : Grammar) (owner : MemberOwner) : Reader Unit := do
  token 1
  settle
  repeatWhile do
    match ← next? with
    | none => return false
    | some c =>
        if c = '\x7d' then return false
        if (← eat ",") || (← eat ";") then return true
        insist (readMember grammar owner)
        let cursor ← get
        unless cursor.lineBreak || owner = .ofClass
            || [',', ';', '\x7d'].contains (cursor.rest.headD ';') do fault
        return true
  expect "\x7d"

end CodeGloss.Script
