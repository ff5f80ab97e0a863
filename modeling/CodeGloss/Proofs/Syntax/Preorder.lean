import CodeGloss.Syntax.Parse

/-!
# Searching a tree in preorder

Passages and faults are searched for with a stack. A node is taken from its end, and the nodes
below it are put there in reverse, so that the first of them comes next. What is found is what a
recursion over the tree finds, each node before what is below it, and the stack is empty after as
many turns as the tree has nodes.
-/

namespace CodeGloss.Syntax

open Text

/-! ## The recursions -/

/-- The passages of the tree below a visit, and of its node before. -/
def preorder (skipModules : Bool) (data : List UInt8) (visit : Visit) : List Passage :=
  if visit.node.stop ≤ visit.node.start then []
  else
    match visit.node.kind with
    | .string =>
        if skipModules = true ∧ isModuleName data visit = true then []
        else if isEnclosed (slice data visit.node.start visit.node.stop) = true then
          let inAttribute := visit.parent.any fun parent => .attribute == parent.kind
          [⟨if inAttribute then .attribute else .string, visit.node.start, visit.node.stop⟩]
        else []
    | .template =>
        templatePassages data visit.node
          ++ (visit.node.children.filter fun child => child.kind == .substitution).flatMap
            fun child => preorder skipModules data ⟨child, some visit.node, visit.parent⟩
    | .markupText => [⟨.markupText, visit.node.start, visit.node.stop⟩]
    | .comment => [⟨.comment, visit.node.start, visit.node.stop⟩]
    | _ =>
        visit.node.children.flatMap fun child =>
          preorder skipModules data ⟨child, some visit.node, visit.parent⟩
termination_by visit.node.size
decreasing_by
  all_goals exact Node.size_lt_of_mem_children ‹_›

/-- The ranges of the nodes of a tree that are errors or missing, each before those below it. -/
def faultsOf (node : Node) : List (Nat × Nat) :=
  (if node.kind = .error ∨ node.missing = true then [(node.start, node.stop)] else [])
    ++ node.children.flatMap faultsOf
termination_by node.size
decreasing_by exact Node.size_lt_of_mem_children ‹_›

/-! ## The search as a loop -/

/-- The nodes that wait on the stack, the next one at its end, and what has been found. -/
structure Search (α : Type) where
  stack : List Visit
  found : List α := []

namespace Search

variable {α : Type} (yields : Visit → List α) (below : Visit → List Visit)

/-- One turn, unless the stack is empty. -/
def turn? (search : Search α) : Option (Search α) :=
  search.stack.getLast?.map fun visit =>
    ⟨search.stack.dropLast ++ (below visit).reverse, search.found ++ yields visit⟩

/-- The search after `n` turns, or where it ends before. -/
def run : Nat → Search α → Search α
  | 0, search => search
  | n + 1, search => (search.turn? yields below).elim search (run n)

theorem turn?_append (stack : List Visit) (visit : Visit) (found : List α) :
    turn? yields below ⟨stack ++ [visit], found⟩ =
      some ⟨stack ++ (below visit).reverse, found ++ yields visit⟩ := by
  rw [turn?, List.getLast?_concat, List.dropLast_concat, Option.map_some]

theorem sizes_append (left right : List Visit) :
    Visit.sizes (left ++ right) = Visit.sizes left + Visit.sizes right := by
  rw [Visit.sizes, List.map_append, Node.sizes_append, ← Visit.sizes, ← Visit.sizes]

theorem sizes_singleton (visit : Visit) : Visit.sizes [visit] = visit.node.size := by
  rw [Visit.sizes, List.map_singleton, Node.sizes_cons, Node.sizes_nil, Nat.add_zero]

theorem sizes_reverse (visits : List Visit) : Visit.sizes visits.reverse = Visit.sizes visits := by
  induction visits with
  | nil => rfl
  | cons visit visits ih =>
      have parts : visit :: visits = [visit] ++ visits := rfl
      rw [List.reverse_cons, sizes_append, ih, parts, sizes_append, Nat.add_comm]

/-- A search whose turns leave fewer nodes ends within as many turns as nodes wait. It finds what
a recursion finds that takes what a node yields and then goes on with the nodes below it. -/
theorem run_eq {meaning : Visit → List α}
    (unfolds : ∀ visit, meaning visit = yields visit ++ (below visit).flatMap meaning)
    (fewer : ∀ visit, Visit.sizes (below visit) < visit.node.size) {n : Nat}
    {stack : List Visit} (enough : Visit.sizes stack ≤ n) (found : List α) :
    run yields below n ⟨stack, found⟩ = ⟨[], found ++ stack.reverse.flatMap meaning⟩ := by
  induction n generalizing stack found with
  | zero =>
      rcases List.eq_nil_or_concat stack with rfl | ⟨rest, visit, rfl⟩
      · rw [run, List.reverse_nil, List.flatMap_nil, List.append_nil]
      · rw [List.concat_eq_append, sizes_append, sizes_singleton, Node.size_eq] at enough
        exact absurd enough (by omega)
  | succ n ih =>
      rcases List.eq_nil_or_concat stack with rfl | ⟨rest, visit, rfl⟩
      · rw [List.reverse_nil, List.flatMap_nil, List.append_nil]
        rfl
      · have fewerBelow := fewer visit
        have enoughBelow : Visit.sizes (rest ++ (below visit).reverse) ≤ n := by
          rw [List.concat_eq_append, sizes_append, sizes_singleton] at enough
          rw [sizes_append, sizes_reverse]
          omega
        rw [List.concat_eq_append, run, turn?_append, Option.elim_some, ih enoughBelow,
          List.reverse_append, List.reverse_append, List.reverse_reverse, List.reverse_singleton,
          List.singleton_append, List.flatMap_cons, List.flatMap_append, unfolds visit]
        simp only [List.append_assoc]

end Search

/-! ## Passages -/

section Passages

variable {skipModules : Bool} {data : List UInt8}

/-- The recursion takes what a node yields itself, and goes on where the search does. -/
theorem preorder_eq_append (visit : Visit) :
    preorder skipModules data visit =
      ownPassages skipModules data visit
        ++ (descents visit).flatMap (preorder skipModules data) := by
  rw [preorder, ownPassages, descents]
  by_cases empty : visit.node.stop ≤ visit.node.start
  · rw [if_pos empty, if_pos empty, if_pos empty]
    rfl
  · rw [if_neg empty, if_neg empty, if_neg empty]
    cases visit.node.kind with
    | string => simp [stringPassages]
    | template => simp [Visit.children, substitutions, List.flatMap_map]
    | markupText => simp
    | comment => simp
    | _ => simp [Visit.children, List.flatMap_map]

theorem collect_eq_flatMap (pending : List Visit) :
    collect skipModules data pending = pending.flatMap (preorder skipModules data) := by
  induction pending using collect.induct with
  | case1 => rw [collect_nil, List.flatMap_nil]
  | case2 visit pending ih =>
      rw [collect_cons, ih, List.flatMap_append, List.flatMap_cons, preorder_eq_append visit,
        List.append_assoc]

theorem passagesOf_eq_preorder (skipModules : Bool) (data : List UInt8) (root : Node) :
    passagesOf skipModules data root = preorder skipModules data (.root root) := by
  rw [passagesOf, collect_eq_flatMap, List.flatMap_singleton]

end Passages

/-! ## Faults -/

/-- The range of a node, if it is a fault. -/
def ownFaults (node : Node) : List (Nat × Nat) :=
  if node.isFault = true then [(node.start, node.stop)] else []

theorem faultsOf_eq_append (node : Node) :
    faultsOf node = ownFaults node ++ node.children.flatMap faultsOf := by
  rw [faultsOf, ownFaults]
  simp only [Node.isFault, Bool.or_eq_true, beq_iff_eq]

/-- All children of a node, where the search for faults goes on. -/
def allBelow (visit : Visit) : List Visit :=
  visit.children visit.node.children

theorem faultsOf_visit (visit : Visit) :
    faultsOf visit.node =
      ownFaults visit.node ++ (allBelow visit).flatMap fun visit => faultsOf visit.node := by
  rw [faultsOf_eq_append, allBelow, Visit.children, List.flatMap_map]

theorem sizes_allBelow_lt (visit : Visit) : Visit.sizes (allBelow visit) < visit.node.size := by
  rw [allBelow, sizes_children, visit.node.size_eq]
  exact Nat.lt_succ_self _

theorem map_filter_walk (nodes : List Node) :
    ((walk nodes).filter Node.isFault).map (fun node => (node.start, node.stop)) =
      nodes.flatMap faultsOf := by
  induction nodes using walk.induct with
  | case1 => rw [walk_nil, List.flatMap_nil]; rfl
  | case2 node pending ih =>
      rw [List.flatMap_append] at ih
      rw [walk_cons, List.flatMap_cons, faultsOf_eq_append, List.append_assoc, ← ih, ownFaults]
      by_cases isFault : node.isFault = true
      · rw [List.filter_cons_of_pos isFault, if_pos isFault]
        rfl
      · rw [List.filter_cons_of_neg isFault, if_neg isFault]
        rfl

theorem faultRanges_eq_faultsOf (root : Node) : faultRanges root = faultsOf root := by
  rw [faultRanges, map_filter_walk, List.flatMap_singleton]

/-! ## The searches of a parse -/

/-- However a tree is shaped, both searches with a stack end within as many turns as the tree has
nodes, and have found what the recursions find. These are the passages and the faults of a parse,
which comes out exactly if the parser has a tree that is no error. -/
theorem searches_arePreorder (parser : Parser) (grammar source : List Char) (skipModules : Bool)
    (data : List UInt8) (root : Node) :
    Search.run (ownPassages skipModules data) descents root.size ⟨[.root root], []⟩ =
        ⟨[], preorder skipModules data (.root root)⟩
      ∧ passagesOf skipModules data root = preorder skipModules data (.root root)
      ∧ Search.run (fun visit => ownFaults visit.node) allBelow root.size ⟨[.root root], []⟩ =
        ⟨[], faultsOf root⟩
      ∧ faultRanges root = faultsOf root
      ∧ ∀ parsed, parse parser grammar skipModules source = .ok parsed ↔
        ∃ tree, parser grammar source = .tree tree ∧ tree.kind ≠ .error
          ∧ parsed.passages = preorder skipModules (Utf8.encode source) (.root tree)
          ∧ parsed.faults = faultsOf tree := by
  have enough : Visit.sizes [.root root] ≤ root.size :=
    Nat.le_of_eq (Search.sizes_singleton (.root root))
  refine ⟨?_, passagesOf_eq_preorder skipModules data root, ?_, faultRanges_eq_faultsOf root, ?_⟩
  · rw [Search.run_eq _ _ preorder_eq_append sizes_descents_lt enough, List.reverse_singleton,
      List.flatMap_singleton, List.nil_append]
  · rw [Search.run_eq _ _ faultsOf_visit sizes_allBelow_lt enough, List.reverse_singleton,
      List.flatMap_singleton, List.nil_append]
    rfl
  · intro parsed
    rw [parse]
    cases parser grammar source with
    | noGrammar reason => simp
    | failed reason => simp
    | nothing => simp
    | tree tree =>
        simp only [Reply.tree.injEq, exists_eq_left']
        rw [← passagesOf_eq_preorder, ← faultRanges_eq_faultsOf]
        by_cases isError : tree.kind = .error
        · simp [isError]
        · rcases parsed with ⟨passages, faults⟩
          simp [isError, Parsed.ofTree, eq_comm]

end CodeGloss.Syntax
