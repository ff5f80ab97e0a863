/-!
# Syntax trees

A node has a kind, a range of bytes and children. Kinds that no passage depends
on are not told apart. Two fields name a child by its index: the module that an
exchange with another module names, and what a call calls.
-/

namespace CodeGloss.Syntax

/-- What a node stands for, as far as the text of a source depends on it. -/
inductive Kind where
  | string
  | template
  /-- A part of a template that is computed. -/
  | substitution
  /-- Text between the tags of markup. -/
  | markupText
  | attribute
  | comment
  | importStatement
  | exportStatement
  | call
  | arguments
  | importKeyword
  | identifier
  /-- What no rule of the grammar covers. -/
  | error
  | other
  deriving DecidableEq, Repr

structure Node where
  kind : Kind
  start : Nat
  stop : Nat
  /-- Whether the node stands for something that the source lacks. -/
  missing : Bool
  moduleIndex : Option Nat
  calleeIndex : Option Nat
  children : List Node

namespace Node

/-- A node without children. -/
def leaf (kind : Kind) (start stop : Nat) : Node :=
  ⟨kind, start, stop, false, none, none, []⟩

instance : Inhabited Node :=
  ⟨leaf .other 0 0⟩

/-- The child that names a module. -/
def module? (node : Node) : Option Node :=
  node.moduleIndex.bind fun index => node.children[index]?

/-- The child that a call calls. -/
def callee? (node : Node) : Option Node :=
  node.calleeIndex.bind fun index => node.children[index]?

/-- Whether the node marks a place where the source is not well formed. -/
def isFault (node : Node) : Bool :=
  node.kind == .error || node.missing

mutual

/-- The number of nodes in a tree. -/
def size : Node → Nat
  | ⟨_, _, _, _, _, _, children⟩ => sizes children + 1

/-- The number of nodes in several trees. -/
def sizes : List Node → Nat
  | [] => 0
  | node :: rest => size node + sizes rest

end

@[simp]
theorem sizes_nil : sizes [] = 0 := by
  simp [sizes]

@[simp]
theorem sizes_cons (node : Node) (rest : List Node) : sizes (node :: rest) = size node + sizes rest := by
  simp [sizes]

theorem size_eq (node : Node) : node.size = sizes node.children + 1 := by
  cases node
  simp [size]

@[simp]
theorem sizes_append (left right : List Node) : sizes (left ++ right) = sizes left + sizes right := by
  induction left with
  | nil => simp
  | cons node rest ih => simp [ih, Nat.add_assoc]

theorem size_le_sizes {node : Node} {nodes : List Node} (member : node ∈ nodes) :
    node.size ≤ sizes nodes := by
  induction nodes with
  | nil => contradiction
  | cons first nodes ih =>
      rw [sizes_cons]
      rcases List.mem_cons.mp member with rfl | later
      · exact Nat.le_add_right _ _
      · exact Nat.le_trans (ih later) (Nat.le_add_left _ _)

theorem size_lt_of_mem_children {node child : Node} (isChild : child ∈ node.children) :
    child.size < node.size := by
  rw [node.size_eq]
  exact Nat.lt_succ_of_le (size_le_sizes isChild)

theorem sizes_filter_le (keep : Node → Bool) (nodes : List Node) :
    sizes (nodes.filter keep) ≤ sizes nodes := by
  induction nodes with
  | nil => simp
  | cons node rest ih =>
      by_cases kept : keep node = true
      · simpa [kept] using ih
      · simp only [List.filter_cons, kept, if_false, sizes_cons, Bool.false_eq_true]
        omega

end Node

/-- The nodes of the trees that wait on a work list, each before its children. -/
def walk : List Node → List Node
  | [] => []
  | node :: pending => node :: walk (node.children ++ pending)
termination_by pending => Node.sizes pending
decreasing_by
  rw [Node.sizes_append, Node.sizes_cons, Node.size_eq]
  omega

@[simp]
theorem walk_nil : walk [] = [] := by
  simp [walk]

theorem walk_cons (node : Node) (pending : List Node) :
    walk (node :: pending) = node :: walk (node.children ++ pending) := by
  rw [walk]

/-- The ranges where a tree says that the source is not well formed. -/
def faultRanges (root : Node) : List (Nat × Nat) :=
  ((walk [root]).filter Node.isFault).map fun node => (node.start, node.stop)

end CodeGloss.Syntax
