import CodeGloss.Syntax.Node
import CodeGloss.Text.Slice
import CodeGloss.Text.Utf8

/-!
# Passages

A passage is a range of a source that holds text for people: a string literal,
an attribute value, a fixed chunk of a template, text between tags, or a comment.
Passages are collected from a syntax tree with a work list. Strings that name a
module may be left out.
-/

namespace CodeGloss.Syntax

open Text

inductive PassageKind where
  | string
  | attribute
  | templateChunk
  | markupText
  | comment
  deriving DecidableEq, Repr

def PassageKind.tag : PassageKind → String
  | .string => "string"
  | .attribute => "jsx_attribute"
  | .templateChunk => "template_chunk"
  | .markupText => "jsx_text"
  | .comment => "comment"

/-- A range of bytes that holds text. -/
structure Passage where
  kind : PassageKind
  start : Nat
  stop : Nat
  deriving DecidableEq, Repr

/-- A node on its way, with the two nodes above it. -/
structure Visit where
  node : Node
  parent : Option Node
  grandparent : Option Node

namespace Visit

/-- The visits of some children of the node. -/
def children (visit : Visit) (nodes : List Node) : List Visit :=
  nodes.map fun node => ⟨node, some visit.node, visit.parent⟩

def root (node : Node) : Visit :=
  ⟨node, none, none⟩

/-- The number of nodes below visits, themselves included. -/
def sizes (visits : List Visit) : Nat :=
  Node.sizes (visits.map Visit.node)

end Visit

/-- The word whose call loads a module. -/
def requireWord : List UInt8 :=
  Utf8.encode "require".toList

/-- Whether a call loads a module. -/
def loadsModule (data : List UInt8) (call : Node) : Bool :=
  call.kind == .call && call.callee?.any fun callee =>
    callee.kind == .importKeyword
      || (callee.kind == .identifier && slice data callee.start callee.stop == requireWord)

/-- Whether a string names a module: as the module of an import or export, or as
an argument of a call that loads one. -/
def isModuleName (data : List UInt8) (visit : Visit) : Bool :=
  visit.parent.any fun parent =>
    match parent.kind with
    | .importStatement | .exportStatement =>
        parent.module?.any fun name => name.start == visit.node.start
    | .arguments => visit.grandparent.any (loadsModule data)
    | _ => false

/-- The bytes that may enclose a string. -/
def quoteBytes : List UInt8 :=
  [0x22, 0x27]

/-- Whether the same quote encloses the bytes. -/
def isEnclosed (raw : List UInt8) : Bool :=
  match raw with
  | first :: second :: rest => quoteBytes.contains first && (second :: rest).getLast? == some first
  | _ => false

/-- The passage of a string, if it is one to gloss. -/
def stringPassages (skipModules : Bool) (data : List UInt8) (visit : Visit) : List Passage :=
  if skipModules && isModuleName data visit then []
  else if isEnclosed (slice data visit.node.start visit.node.stop) then
    let inAttribute := visit.parent.any fun parent => .attribute == parent.kind
    [⟨if inAttribute then .attribute else .string, visit.node.start, visit.node.stop⟩]
  else []

/-- The chunk between two places, unless it is empty. -/
def chunkBetween (start stop : Nat) : List Passage :=
  if start < stop then [⟨.templateChunk, start, stop⟩] else []

/-- The chunks between the substitutions, from `place` up to `close`. -/
def chunksFrom (place close : Nat) : List Node → List Passage
  | [] => chunkBetween place close
  | node :: rest =>
      if node.kind = .substitution then
        chunkBetween place node.start ++ chunksFrom node.stop close rest
      else chunksFrom place close rest

/-- The byte that encloses a template. -/
def templateByte : UInt8 :=
  0x60

/-- The fixed chunks of a template. -/
def templatePassages (data : List UInt8) (node : Node) : List Passage :=
  if node.stop - node.start < 2 then []
  else if slice data node.start (node.start + 1) = [templateByte]
      ∧ slice data (node.stop - 1) node.stop = [templateByte] then
    chunksFrom (node.start + 1) (node.stop - 1) node.children
  else []

/-- The computed parts of a template. -/
def substitutions (node : Node) : List Node :=
  node.children.filter fun child => child.kind == .substitution

/-- The passages that a node yields itself. -/
def ownPassages (skipModules : Bool) (data : List UInt8) (visit : Visit) : List Passage :=
  if visit.node.stop ≤ visit.node.start then []
  else
    match visit.node.kind with
    | .string => stringPassages skipModules data visit
    | .template => templatePassages data visit.node
    | .markupText => [⟨.markupText, visit.node.start, visit.node.stop⟩]
    | .comment => [⟨.comment, visit.node.start, visit.node.stop⟩]
    | _ => []

/-- The children where the search goes on. -/
def descents (visit : Visit) : List Visit :=
  if visit.node.stop ≤ visit.node.start then []
  else
    match visit.node.kind with
    | .string | .markupText | .comment => []
    | .template => visit.children (substitutions visit.node)
    | _ => visit.children visit.node.children

theorem sizes_children (visit : Visit) (nodes : List Node) :
    Visit.sizes (visit.children nodes) = Node.sizes nodes := by
  simp [Visit.sizes, Visit.children, Function.comp_def]

theorem sizes_descents_lt (visit : Visit) : Visit.sizes (descents visit) < visit.node.size := by
  have below := Node.sizes_filter_le (fun child => child.kind == .substitution) visit.node.children
  rw [Node.size_eq]
  unfold descents
  split
  · simp [Visit.sizes]
  · split
    · simp [Visit.sizes]
    · simp [Visit.sizes]
    · simp [Visit.sizes]
    · rw [sizes_children, substitutions]
      omega
    · rw [sizes_children]
      omega

/-- The passages of the trees that wait on a work list. -/
def collect (skipModules : Bool) (data : List UInt8) : List Visit → List Passage
  | [] => []
  | visit :: pending =>
      ownPassages skipModules data visit ++ collect skipModules data (descents visit ++ pending)
termination_by pending => Visit.sizes pending
decreasing_by
  have below := sizes_descents_lt visit
  simp only [Visit.sizes, List.map_append, List.map_cons, Node.sizes_append, Node.sizes_cons]
    at below ⊢
  omega

@[simp]
theorem collect_nil (skipModules : Bool) (data : List UInt8) : collect skipModules data [] = [] := by
  simp [collect]

theorem collect_cons (skipModules : Bool) (data : List UInt8) (visit : Visit)
    (pending : List Visit) :
    collect skipModules data (visit :: pending) =
      ownPassages skipModules data visit ++ collect skipModules data (descents visit ++ pending) := by
  rw [collect]

/-- The passages of a syntax tree over `data`. -/
def passagesOf (skipModules : Bool) (data : List UInt8) (root : Node) : List Passage :=
  collect skipModules data [.root root]

end CodeGloss.Syntax
