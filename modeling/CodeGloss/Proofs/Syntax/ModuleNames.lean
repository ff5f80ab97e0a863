import CodeGloss.Proofs.Syntax.Nesting
import Mathlib.Data.List.Basic
import Mathlib.Data.List.Pairwise

/-!
# Strings that name modules

A search that skips the names of modules comes by the same nodes as one that does not. It only
leaves out the passages of those strings. In a nested tree such a string shares no byte with any
other passage, so all the others can be told from it by their ranges. The string that a statement
names as its module is found by its start, which it has in common with no other string unless the
statement has an empty node there.
-/

namespace CodeGloss.Syntax

open Text

/-! ## Nodes of a search -/

theorem sizes_descents_append_lt (visit : Visit) (pending : List Visit) :
    Visit.sizes (descents visit ++ pending) < Visit.sizes (visit :: pending) := by
  have below := sizes_descents_lt visit
  simp only [Visit.sizes, List.map_append, List.map_cons, Node.sizes_append, Node.sizes_cons]
    at below ⊢
  omega

/-- The nodes that a search comes by, from those that wait on its work list. -/
def reached : List Visit → List Visit
  | [] => []
  | visit :: pending => visit :: reached (descents visit ++ pending)
termination_by pending => Visit.sizes pending
decreasing_by exact sizes_descents_append_lt visit pending

theorem reached_nil : reached [] = [] := by
  rw [reached]

theorem reached_cons (visit : Visit) (pending : List Visit) :
    reached (visit :: pending) = visit :: reached (descents visit ++ pending) := by
  rw [reached]

/-- Whatever is left out, passages are those of the same nodes. -/
theorem collect_eq_flatMap_reached (skipModules : Bool) (data : List UInt8)
    (pending : List Visit) :
    collect skipModules data pending =
      (reached pending).flatMap (ownPassages skipModules data) := by
  induction pending using collect.induct with
  | case1 => rw [collect_nil, reached_nil, List.flatMap_nil]
  | case2 visit pending ih => rw [collect_cons, reached_cons, List.flatMap_cons, ih]

section Reached

variable {pending : List Visit} {visit other : Visit} {data : List UInt8}

/-- What holds of the nodes that wait, and with a node of those below it, holds of all nodes that
the search comes by. -/
theorem forall_reached {holds : Visit → Prop} (waits : ∀ visit ∈ pending, holds visit)
    (descends : ∀ visit, holds visit → ∀ below ∈ descents visit, holds below) :
    ∀ visit ∈ reached pending, holds visit := by
  induction pending using reached.induct with
  | case1 => simp [reached_nil]
  | case2 visit pending ih =>
      rw [List.forall_mem_cons] at waits
      rw [reached_cons, List.forall_mem_cons]
      constructor
      · exact waits.1
      · apply ih
        intro below member
        rcases List.mem_append.mp member with descends' | later
        · exact descends visit waits.1 below descends'
        · exact waits.2 below later

theorem descents_of_string (isString : visit.node.kind = .string) : descents visit = [] := by
  rw [descents, isString, ite_self]

/-- A node of a search lies within one that waited. -/
theorem exists_within_of_mem_reached (waiting : Waiting pending)
    (member : visit ∈ reached pending) :
    ∃ above ∈ pending, above.node.start ≤ visit.node.start ∧ visit.node.stop ≤ above.node.stop := by
  induction pending using reached.induct with
  | case1 => simp [reached_nil] at member
  | case2 first pending ih =>
      rw [reached_cons, List.mem_cons] at member
      rcases member with rfl | later
      · exact ⟨visit, List.mem_cons_self, Nat.le_refl _, Nat.le_refl _⟩
      · rcases ih waiting.step later with ⟨above, aboveMem, starts, stops⟩
        rcases List.mem_append.mp aboveMem with below | waits
        · have nested := waiting.nested first List.mem_cons_self
          have bounds := nested.inOrder.within _ (mem_children_of_mem_descents below)
          exact ⟨first, List.mem_cons_self, Nat.le_trans bounds.1 starts,
            Nat.le_trans stops bounds.2⟩
        · exact ⟨above, List.mem_cons_of_mem first waits, starts, stops⟩

theorem nested_of_mem_descents (nested : visit.node.Nested) :
    ∀ below ∈ descents visit, below.node.Nested := by
  intro below member
  cases nested with
  | intro _ _ _ belowNested => exact belowNested _ (mem_children_of_mem_descents member)

/-- If one of the nodes is a string, no passage of the other shares a byte with it. -/
structure Clear (data : List UInt8) (visit other : Visit) : Prop where
  first : visit.node.kind = .string → ∀ p ∈ ownPassages false data other, p.Avoids visit.node
  second : other.node.kind = .string → ∀ p ∈ ownPassages false data visit, p.Avoids other.node

theorem Clear.symm (clear : Clear data visit other) : Clear data other visit :=
  ⟨clear.second, clear.first⟩

instance : Std.Symm (Clear data) :=
  ⟨fun _ _ => Clear.symm⟩

theorem pairwise_clear_reached (data : List UInt8) (waiting : Waiting pending) :
    (reached pending).Pairwise (Clear data) := by
  induction pending using reached.induct with
  | case1 =>
      rw [reached_nil]
      exact .nil
  | case2 visit pending ih =>
      have nested := waiting.nested visit List.mem_cons_self
      rw [reached_cons]
      apply List.Pairwise.cons _ (ih waiting.step)
      intro other member
      have allNested : ∀ other ∈ reached (descents visit ++ pending), other.node.Nested :=
        forall_reached waiting.step.nested fun _ => nested_of_mem_descents
      rcases exists_within_of_mem_reached waiting.step member with ⟨above, aboveMem, starts, stops⟩
      constructor
      · intro isString p own
        -- nothing is below a string, so the other node stands behind it
        rw [descents_of_string isString, List.nil_append] at aboveMem
        have behind := List.rel_of_pairwise_cons waiting.ordered aboveMem
        have within := within_of_mem_ownPassages (allNested other member) own
        exact .inr (Nat.le_trans behind (Nat.le_trans starts within.1))
      · intro _ p own
        rcases List.mem_append.mp aboveMem with below | waits
        · rcases avoids_of_mem_descents nested own above below with before | behind
          · exact .inl (Nat.le_trans before starts)
          · exact .inr (Nat.le_trans stops behind)
        · have within := within_of_mem_ownPassages nested own
          have behind := List.rel_of_pairwise_cons waiting.ordered waits
          exact .inl (Nat.le_trans within.2.2 (Nat.le_trans behind starts))

end Reached

/-! ## Names of modules -/

namespace Visit

/-- The node is the module of an import or export, or it stands directly among the arguments of a
call to `import` or to the name `require`. -/
inductive NamesModule (data : List UInt8) (visit : Visit) : Prop
  | exchange {statement : Node} (isParent : visit.parent = some statement)
      (isExchange : statement.kind = .importStatement ∨ statement.kind = .exportStatement)
      (isModule : statement.module? = some visit.node)
  | argument {arguments call callee : Node} (isParent : visit.parent = some arguments)
      (areArguments : arguments.kind = .arguments) (isGrandparent : visit.grandparent = some call)
      (isCall : call.kind = .call) (isCallee : call.callee? = some callee)
      (loads : callee.kind = .importKeyword ∨ callee.kind = .identifier
        ∧ slice data callee.start callee.stop = requireWord)

/-- The node starts where the import or export above it has an empty node for its module. -/
def AtEmptyModule (visit : Visit) : Prop :=
  ∃ statement name, visit.parent = some statement
    ∧ (statement.kind = .importStatement ∨ statement.kind = .exportStatement)
    ∧ statement.module? = some name ∧ name.stop ≤ name.start ∧ name.start = visit.node.start

/-- The node names a module, or starts where an empty node does. -/
def IsSkipped (data : List UInt8) (visit : Visit) : Prop :=
  visit.NamesModule data ∨ visit.AtEmptyModule

/-- The node above a visit has a nested tree, and the node among its children. -/
def Placed (visit : Visit) : Prop :=
  ∀ parent ∈ visit.parent, parent.Nested ∧ visit.node ∈ parent.children

end Visit

section Names

variable {visit : Visit} {data : List UInt8}

theorem Node.mem_children_of_module? {node name : Node} (isModule : node.module? = some name) :
    name ∈ node.children := by
  rcases Option.bind_eq_some_iff.mp isModule with ⟨index, _, isChild⟩
  exact List.mem_of_getElem? isChild

/-- A node with bytes starts where the module of the statement does exactly if it is that module,
or the module is empty there. -/
theorem start_eq_iff_of_mem_children {statement name node : Node} (nested : statement.Nested)
    (isModule : name ∈ statement.children) (isChild : node ∈ statement.children)
    (nonempty : node.start < node.stop) :
    name.start = node.start ↔ name = node ∨ name.stop ≤ name.start ∧ name.start = node.start := by
  have apart : name = node ∨ name.stop ≤ node.start ∨ node.stop ≤ name.start :=
    List.Pairwise.forall_of_forall_of_flip
      (R := fun a b : Node => a = b ∨ a.stop ≤ b.start ∨ b.stop ≤ a.start)
      (fun _ _ => .inl rfl) (nested.inOrder.ordered.imp fun before => .inr (.inl before))
      (nested.inOrder.ordered.imp fun before => .inr (.inr before)) isModule isChild
  constructor
  · intro starts
    rcases apart with same | before | behind
    · exact .inl same
    · exact .inr ⟨by rwa [starts], starts⟩
    · exact absurd nonempty (Nat.not_lt.mpr (starts ▸ behind))
  · rintro (rfl | ⟨_, starts⟩)
    · rfl
    · exact starts

theorem isModuleName_of_exchange {statement : Node} (isParent : visit.parent = some statement)
    (isExchange : statement.kind = .importStatement ∨ statement.kind = .exportStatement) :
    isModuleName data visit = true ↔
      ∃ name, statement.module? = some name ∧ name.start = visit.node.start := by
  rcases isExchange with isKind | isKind
  · simp [isModuleName, isParent, isKind, Option.any_eq_true]
  · simp [isModuleName, isParent, isKind, Option.any_eq_true]

theorem isModuleName_of_argument {arguments : Node} (isParent : visit.parent = some arguments)
    (areArguments : arguments.kind = .arguments) :
    isModuleName data visit = true ↔ ∃ call, visit.grandparent = some call ∧ call.kind = .call
      ∧ ∃ callee, call.callee? = some callee ∧ (callee.kind = .importKeyword
        ∨ callee.kind = .identifier ∧ slice data callee.start callee.stop = requireWord) := by
  simp [isModuleName, isParent, areArguments, Option.any_eq_true, loadsModule]

/-- Only below an exchange or among arguments does a node name a module. -/
theorem exists_parent_of_isModuleName (isName : isModuleName data visit = true) :
    ∃ parent, visit.parent = some parent
      ∧ ((parent.kind = .importStatement ∨ parent.kind = .exportStatement)
        ∨ parent.kind = .arguments) := by
  rw [isModuleName, Option.any_eq_true] at isName
  rcases isName with ⟨parent, isParent, names⟩
  refine ⟨parent, isParent, ?_⟩
  cases isKind : parent.kind <;> simp [isKind] at names ⊢

/-- Names of modules are found by their parents and starts. What is found beside them stands where
a statement has an empty node for its module. -/
theorem isModuleName_iff (placed : visit.Placed) (nonempty : visit.node.start < visit.node.stop) :
    isModuleName data visit = true ↔ visit.IsSkipped data := by
  constructor
  · intro isName
    rcases exists_parent_of_isModuleName isName with ⟨parent, isParent, isExchange | areArguments⟩
    · rcases (isModuleName_of_exchange isParent isExchange).mp isName with ⟨name, isModule, starts⟩
      rcases placed parent isParent with ⟨nested, isChild⟩
      rcases (start_eq_iff_of_mem_children nested (Node.mem_children_of_module? isModule) isChild
        nonempty).mp starts with rfl | ⟨empty, _⟩
      · exact .inl (.exchange isParent isExchange isModule)
      · exact .inr ⟨parent, name, isParent, isExchange, isModule, empty, starts⟩
    · rcases (isModuleName_of_argument isParent areArguments).mp isName with
        ⟨call, isGrandparent, isCall, callee, isCallee, loads⟩
      exact .inl (.argument isParent areArguments isGrandparent isCall isCallee loads)
  · rintro ((⟨isParent, isExchange, isModule⟩ |
        ⟨isParent, areArguments, isGrandparent, isCall, isCallee, loads⟩) |
      ⟨statement, name, isParent, isExchange, isModule, _, starts⟩)
    · exact (isModuleName_of_exchange isParent isExchange).mpr ⟨_, isModule, rfl⟩
    · exact (isModuleName_of_argument isParent areArguments).mpr
        ⟨_, isGrandparent, isCall, _, isCallee, loads⟩
    · exact (isModuleName_of_exchange isParent isExchange).mpr ⟨name, isModule, starts⟩

end Names

/-! ## What is skipped -/

/-- The passage has the range of the node. -/
def Passage.Covers (p : Passage) (node : Node) : Prop :=
  p.start = node.start ∧ p.stop = node.stop

instance (p : Passage) (node : Node) : Decidable (p.Covers node) :=
  inferInstanceAs (Decidable (_ ∧ _))

/-- The strings of a tree whose passages a search skips. -/
def skippedNames (data : List UInt8) (root : Node) : List Visit :=
  (reached [.root root]).filter fun visit => visit.node.kind == .string && isModuleName data visit

section Skipping

variable {visit : Visit} {root : Node} {data : List UInt8} {p : Passage}

theorem mem_skippedNames : visit ∈ skippedNames data root ↔
    visit ∈ reached [.root root] ∧ visit.node.kind = .string ∧ isModuleName data visit = true := by
  simp [skippedNames]

theorem parent_of_mem_descents : ∀ below ∈ descents visit, below.parent = some visit.node := by
  intro below member
  have isChild : ∃ nodes, descents visit = visit.children nodes := by
    unfold descents
    split
    · exact ⟨[], rfl⟩
    · split
      · exact ⟨[], rfl⟩
      · exact ⟨[], rfl⟩
      · exact ⟨[], rfl⟩
      · exact ⟨_, rfl⟩
      · exact ⟨_, rfl⟩
  rcases isChild with ⟨nodes, areChildren⟩
  rw [areChildren] at member
  rcases List.mem_map.mp member with ⟨node, _, rfl⟩
  rfl

theorem placed_of_mem_reached (nested : root.Nested) :
    ∀ visit ∈ reached [.root root], visit.node.Nested ∧ visit.Placed := by
  apply forall_reached
  · rw [List.forall_mem_singleton]
    exact ⟨nested, nofun⟩
  · rintro visit ⟨nested, _⟩ below member
    refine ⟨nested_of_mem_descents nested below member, ?_⟩
    intro parent isParent
    rw [parent_of_mem_descents below member, Option.mem_some_iff] at isParent
    rw [← isParent]
    exact ⟨nested, mem_children_of_mem_descents member⟩

/-- Skipping makes a difference for the strings that name a module, and there it leaves nothing. -/
theorem ownPassages_skip (data : List UInt8) (visit : Visit) :
    ownPassages true data visit =
      if visit.node.kind = .string ∧ isModuleName data visit = true then []
      else ownPassages false data visit := by
  unfold ownPassages
  by_cases empty : visit.node.stop ≤ visit.node.start
  · simp only [if_pos empty, ite_self]
  · simp only [if_neg empty]
    cases visit.node.kind with
    | string => by_cases isName : isModuleName data visit = true <;> simp [stringPassages, isName]
    | _ => rfl

/-- The passage of a string has its range, and is no comment. -/
theorem covers_of_mem_ownPassages (isString : visit.node.kind = .string)
    (member : p ∈ ownPassages false data visit) : p.Covers visit.node ∧ p.kind ≠ .comment := by
  rw [ownPassages] at member
  split at member
  · contradiction
  · simp only [isString, stringPassages, Bool.false_and, Bool.false_eq_true, if_false] at member
    split at member
    · rw [List.mem_singleton.mp member]
      refine ⟨⟨rfl, rfl⟩, ?_⟩
      dsimp only
      split
      · exact nofun
      · exact nofun
    · contradiction

/-- A passage shares no byte with a string that the search comes by, unless it is the passage of
that string. -/
theorem avoids_or_covers (nested : root.Nested) (reaches : visit ∈ reached [.root root])
    (isString : visit.node.kind = .string) (member : p ∈ passagesOf false data root) :
    p.Avoids visit.node ∨ p.Covers visit.node ∧ p.kind ≠ .comment := by
  rw [passagesOf, collect_eq_flatMap_reached, List.mem_flatMap] at member
  rcases member with ⟨other, otherReaches, own⟩
  by_cases same : other = visit
  · right
    rw [same] at own
    exact covers_of_mem_ownPassages isString own
  · left
    have clear := pairwise_clear_reached data (waiting_root nested)
    exact (clear.forall otherReaches reaches same).second isString p own

/-- A search that skips the names of modules finds all passages but those of the names. -/
theorem passagesOf_skip (nested : root.Nested) :
    passagesOf true data root = (passagesOf false data root).filter fun p =>
      ∀ name ∈ skippedNames data root, ¬ p.Covers name.node := by
  have waiting := waiting_root nested
  rw [passagesOf, passagesOf, collect_eq_flatMap_reached, collect_eq_flatMap_reached,
    List.filter_flatMap]
  apply List.flatMap_congr
  intro visit reaches
  rw [ownPassages_skip]
  by_cases isName : visit.node.kind = .string ∧ isModuleName data visit = true
  · rw [if_pos isName, eq_comm, List.filter_eq_nil_iff]
    intro p own
    have covers := (covers_of_mem_ownPassages isName.1 own).1
    simpa using ⟨visit, mem_skippedNames.mpr ⟨reaches, isName⟩, covers⟩
  · rw [if_neg isName, eq_comm, List.filter_eq_self]
    intro p own
    rw [decide_eq_true_eq]
    intro name isSkipped covers
    rcases mem_skippedNames.mp isSkipped with ⟨nameReaches, namesModule⟩
    have differs : visit ≠ name := fun same => isName (same ▸ namesModule)
    have clear := (pairwise_clear_reached data waiting).forall reaches nameReaches differs
    have within := within_of_mem_ownPassages (placed_of_mem_reached nested visit reaches).1 own
    rcases clear.second namesModule.1 p own with before | behind
    · rw [← covers.1] at before
      exact absurd within.2.1 (Nat.not_lt.mpr before)
    · rw [← covers.2] at behind
      exact absurd within.2.1 (Nat.not_lt.mpr behind)

end Skipping

end CodeGloss.Syntax
