import CodeGloss.Script.Element
import CodeGloss.Script.Member
import CodeGloss.Script.Statement
import CodeGloss.Syntax.Parse

/-!
# Reading a whole script

The readers of the constructs are tied together. A construct inside another one
is read with less fuel, and the fuel comes from the length of the script: between
two of its characters only a few constructs can start inside each other.
-/

namespace CodeGloss.Script

open Syntax

/-- Read a construct with the readers for those inside it. -/
def readConstruct (grammar : Grammar) : Construct → Reader Unit
  | .statement => readStatement grammar
  | .block => readBlock grammar
  | .assignment surroundings => readAssignment grammar surroundings
  | .type => readType grammar
  | .element => readElement grammar
  | .members owner => readMembers grammar owner

/-- The grammar of a dialect, for constructs nested at most `depth` deep. -/
def grammarOf (dialect : Dialect) : Nat → Grammar
  | 0 => ⟨dialect, fun _ => pure ()⟩
  | depth + 1 => ⟨dialect, fun construct => readConstruct (grammarOf dialect depth) construct⟩

/-- The line that says what runs a script, if the script starts with one. -/
def interpreterLine (source : List Char) : List Char :=
  if ['#', '!'].isPrefixOf source then source.takeWhile (· != '\n') else []

/-- The syntax tree of a script. -/
def read (dialect : Dialect) (source : List Char) : Node :=
  let start : Cursor := ⟨source, 0, false, [], 0, false⟩
  let reader : Reader Unit := do
    token (interpreterLine source).length
    readStatements (grammarOf dialect (4 * source.length + 8))
  let (_, cursor) := reader.run start
  ⟨.other, 0, cursor.offset, false, none, none, cursor.found.reverse⟩

/-- The grammars that are known, each with its dialect. -/
def grammars : List (String × Dialect) :=
  [("tsx", ⟨true, true⟩), ("typescript", ⟨false, true⟩), ("javascript", ⟨true, false⟩)]

/-- The parser for scripts. -/
def parser : Parser := fun name source =>
  match grammars.lookup (String.ofList name) with
  | some dialect => .tree (read dialect source)
  | none => .noGrammar ("Could not find language library for ".toList ++ name)

end CodeGloss.Script
