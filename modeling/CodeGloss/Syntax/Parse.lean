import CodeGloss.Syntax.Passage

/-!
# Parsing

A parser is asked for the syntax tree of a source under a named grammar. It may
not know the grammar, fail, or answer without a tree. A tree whose root is an
error is no tree either. What remains gives the passages of the source and the
ranges where it is not well formed.
-/

namespace CodeGloss.Syntax

open Text

/-- What a parser answers. -/
inductive Reply where
  /-- The grammar cannot be loaded. -/
  | noGrammar (reason : List Char)
  | failed (reason : List Char)
  /-- No tree came out. -/
  | nothing
  | tree (root : Node)

/-- The answer for a grammar and a source. -/
abbrev Parser := List Char → List Char → Reply

/-- Why a source has no syntax tree. -/
inductive ParseError where
  | grammarUnavailable (grammar reason : List Char)
  | parserFailed (grammar reason : List Char)
  | noTree (grammar : List Char)
  | unrecoverable (grammar : List Char)
  deriving DecidableEq, Repr

namespace ParseError

def message : ParseError → List Char
  | grammarUnavailable grammar reason =>
      "Cannot load the ".toList ++ grammar ++ " grammar: ".toList ++ reason
  | parserFailed grammar reason => grammar ++ " parser failed: ".toList ++ reason
  | noTree grammar => grammar ++ " parser returned no tree".toList
  | unrecoverable grammar => grammar ++ " parser could not recover a syntax tree".toList

/-- Whether the source is to blame. A grammar that cannot be loaded is not the
source's fault. -/
def isSourceFault : ParseError → Bool
  | grammarUnavailable _ _ => false
  | _ => true

end ParseError

/-- What a parse gives. -/
structure Parsed where
  passages : List Passage
  faults : List (Nat × Nat)
  deriving DecidableEq, Repr

/-- The passages and faults of a tree over `data`. -/
def Parsed.ofTree (skipModules : Bool) (data : List UInt8) (root : Node) : Parsed :=
  ⟨passagesOf skipModules data root, faultRanges root⟩

/-- Parse a source. -/
def parse (parser : Parser) (grammar : List Char) (skipModules : Bool) (source : List Char) :
    Except ParseError Parsed :=
  match parser grammar source with
  | .noGrammar reason => .error (.grammarUnavailable grammar reason)
  | .failed reason => .error (.parserFailed grammar reason)
  | .nothing => .error (.noTree grammar)
  | .tree root =>
      if root.kind = .error then .error (.unrecoverable grammar)
      else .ok (.ofTree skipModules (Utf8.encode source) root)

end CodeGloss.Syntax
