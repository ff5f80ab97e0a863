import CodeGloss.Proofs.Syntax.Nesting

/-!
# Where passages come from

A passage is collected from a node of the tree, so what is true of all nodes is
true of the one that yields it. A passage has the range of its node, or it is a
chunk between the ends of a template and its substitutions.
-/

namespace CodeGloss.Syntax

open Text

/-! ## The nodes of a tree -/

theorem walk_append (nodes others : List Node) :
    walk (nodes ++ others) = walk nodes ++ walk others := by
  induction nodes using walk.induct with
  | case1 => simp
  | case2 node pending ih =>
      rw [List.append_assoc] at ih
      rw [List.cons_append, walk_cons, walk_cons, List.cons_append, ih]

theorem mem_walk_self (node : Node) : node ∈ walk [node] := by
  rw [walk_cons]
  exact List.mem_cons_self

/-- The tree of a node holds the trees of its children. -/
theorem mem_walk_of_mem_children {node child other : Node} (isChild : child ∈ node.children)
    (member : other ∈ walk [child]) : other ∈ walk [node] := by
  rcases List.append_of_mem isChild with ⟨before, after, parts⟩
  have middle : child :: after = [child] ++ after := rfl
  rw [walk_cons, List.append_nil, parts, walk_append, middle, walk_append]
  exact List.mem_cons_of_mem _ (List.mem_append_right _ (List.mem_append_left _ member))

section Origins

variable {skipModules : Bool} {data : List UInt8} {p : Passage} {Holds : Node → Prop}

/-- A collected passage belongs to a node of a tree that waited, so all that holds in these
trees holds in the tree of that node. -/
theorem exists_visit_of_mem_collect {pending : List Visit}
    (all : ∀ visit ∈ pending, ∀ node ∈ walk [visit.node], Holds node)
    (member : p ∈ collect skipModules data pending) :
    ∃ visit, (∀ node ∈ walk [visit.node], Holds node) ∧ p ∈ ownPassages skipModules data visit := by
  induction pending using collect.induct with
  | case1 =>
      rw [collect_nil] at member
      contradiction
  | case2 visit pending ih =>
      rw [collect_cons] at member
      rcases List.mem_append.mp member with own | later
      · exact ⟨visit, all visit List.mem_cons_self, own⟩
      · apply ih _ later
        intro other otherMem node nodeMem
        rcases List.mem_append.mp otherMem with below | waits
        · exact all visit List.mem_cons_self node
            (mem_walk_of_mem_children (mem_children_of_mem_descents below) nodeMem)
        · exact all other (List.mem_cons_of_mem visit waits) node nodeMem

theorem exists_visit_of_mem_passagesOf {root : Node} (all : ∀ node ∈ walk [root], Holds node)
    (member : p ∈ passagesOf skipModules data root) :
    ∃ visit, (∀ node ∈ walk [visit.node], Holds node) ∧ p ∈ ownPassages skipModules data visit :=
  exists_visit_of_mem_collect (List.forall_mem_singleton.mpr all) member

/-- What a passage is to the node that yields it. -/
inductive Origin (data : List UInt8) (node : Node) : Passage → Prop
  | quoted {p : Passage} (kind : p.kind = .string ∨ p.kind = .attribute) : Origin data node p
  | chunk {p : Passage} (opens : slice data node.start (node.start + 1) = [templateByte])
      (closes : slice data (node.stop - 1) node.stop = [templateByte])
      (isChunk : p ∈ chunksFrom (node.start + 1) (node.stop - 1) node.children) :
      Origin data node p
  | markupText (kind : node.kind = .markupText) :
      Origin data node ⟨.markupText, node.start, node.stop⟩
  | comment (kind : node.kind = .comment) : Origin data node ⟨.comment, node.start, node.stop⟩

theorem origin_of_mem_ownPassages {visit : Visit}
    (member : p ∈ ownPassages skipModules data visit) : Origin data visit.node p := by
  unfold ownPassages at member
  split at member
  · contradiction
  · split at member
    · unfold stringPassages at member
      split at member
      · contradiction
      · split at member
        · rw [List.mem_singleton.mp member]
          refine .quoted ?_
          split
          · exact .inr rfl
          · exact .inl rfl
        · contradiction
    · unfold templatePassages at member
      split at member
      · contradiction
      · split at member
        · rename_i delimiters
          exact .chunk delimiters.1 delimiters.2 member
        · contradiction
    · rename_i isMarkupText
      rw [List.mem_singleton.mp member]
      exact .markupText isMarkupText
    · rename_i isComment
      rw [List.mem_singleton.mp member]
      exact .comment isComment
    · contradiction

/-- A chunk starts where the template opens or behind a substitution, and stops where the
template closes or before a substitution. -/
theorem edges_of_mem_chunksFrom {Opens Closes : Nat → Prop} {place close : Nat}
    {nodes : List Node} (opens : Opens place) (closes : Closes close)
    (around : ∀ node ∈ nodes, node.kind = .substitution → Closes node.start ∧ Opens node.stop)
    (member : p ∈ chunksFrom place close nodes) : Opens p.start ∧ Closes p.stop := by
  induction nodes generalizing place with
  | nil =>
      rcases mem_chunkBetween.mp member with ⟨rfl, _⟩
      exact ⟨opens, closes⟩
  | cons node nodes ih =>
      rcases List.forall_mem_cons.mp around with ⟨first, later⟩
      rw [chunksFrom] at member
      split at member
      · rename_i isSubstitution
        rcases first isSubstitution with ⟨closesHere, opensBehind⟩
        rcases List.mem_append.mp member with here | behind
        · rcases mem_chunkBetween.mp here with ⟨rfl, _⟩
          exact ⟨opens, closesHere⟩
        · exact ih opensBehind later behind
      · exact ih opens later member

end Origins

end CodeGloss.Syntax
