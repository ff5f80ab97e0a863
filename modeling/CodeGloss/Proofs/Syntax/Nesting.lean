import CodeGloss.Syntax.Passage

/-!
# Passages of nested trees

In the tree of a parse the range of a node lies in that of its parent, and the
ranges of siblings stand in order. Then no two passages share a byte: those of
different subtrees lie in different ranges, and the chunks of a template lie
between the substitutions in which the search goes on.
-/

namespace CodeGloss.Syntax

open Text

/-- A tree whose ranges lie in each other as its nodes do. -/
inductive Node.Nested : Node → Prop
  | intro {node : Node} (forward : node.start ≤ node.stop)
      (within : ∀ child ∈ node.children, node.start ≤ child.start ∧ child.stop ≤ node.stop)
      (ordered : node.children.Pairwise fun a b => a.stop ≤ b.start)
      (below : ∀ child ∈ node.children, child.Nested) : node.Nested

theorem Node.nested_leaf (kind : Kind) {start stop : Nat} (forward : start ≤ stop) :
    (leaf kind start stop).Nested :=
  .intro forward nofun .nil nofun

theorem Node.Nested.forward {node : Node} (nested : node.Nested) : node.start ≤ node.stop := by
  cases nested with
  | intro forward _ _ _ => exact forward

/-- Whether the ranges of a tree lie in each other as its nodes do. -/
def Node.isNested (node : Node) : Bool :=
  node.start ≤ node.stop
    && node.children.all (fun child => node.start ≤ child.start && child.stop ≤ node.stop)
    && decide (node.children.Pairwise fun a b => a.stop ≤ b.start)
    && node.children.attach.all fun child => child.val.isNested
termination_by node.size
decreasing_by exact Node.size_lt_of_mem_children child.property

theorem Node.isNested_eq_true_iff (node : Node) :
    node.isNested = true ↔ node.start ≤ node.stop
      ∧ (∀ child ∈ node.children, node.start ≤ child.start ∧ child.stop ≤ node.stop)
      ∧ (node.children.Pairwise fun a b => a.stop ≤ b.start)
      ∧ ∀ child ∈ node.children, child.isNested = true := by
  rw [isNested]
  simp [and_assoc]

theorem Node.isNested_iff {node : Node} : node.isNested = true ↔ node.Nested := by
  constructor
  · intro isNested
    induction node using Node.isNested.induct with
    | case1 node ih =>
        rcases node.isNested_eq_true_iff.mp isNested with ⟨forward, within, ordered, below⟩
        exact .intro forward within ordered fun child member =>
          ih ⟨child, member⟩ (below child member)
  · intro nested
    induction nested with
    | intro forward within ordered _ ih =>
        exact (isNested_eq_true_iff _).mpr ⟨forward, within, ordered, ih⟩

instance (node : Node) : Decidable node.Nested :=
  decidable_of_iff _ Node.isNested_iff

/-- One of two passages ends before the other starts. -/
def Passage.Apart (p q : Passage) : Prop :=
  p.stop ≤ q.start ∨ q.stop ≤ p.start

/-- The passage has bytes, all of them in the range of the node. -/
def Passage.Within (p : Passage) (node : Node) : Prop :=
  node.start ≤ p.start ∧ p.start < p.stop ∧ p.stop ≤ node.stop

/-- The passage shares no byte with the node. -/
def Passage.Avoids (p : Passage) (node : Node) : Prop :=
  p.stop ≤ node.start ∨ node.stop ≤ p.start

/-! ## Chunks of a template -/

theorem mem_chunkBetween {start stop : Nat} {p : Passage} :
    p ∈ chunkBetween start stop ↔ p = ⟨.templateChunk, start, stop⟩ ∧ start < stop := by
  unfold chunkBetween
  split <;> simp_all

section Chunks

variable {nodes : List Node} {place close : Nat} {p : Passage}

/-- The nodes stand in order between two places. -/
structure InOrder (low high : Nat) (nodes : List Node) : Prop where
  forward : ∀ node ∈ nodes, node.start ≤ node.stop
  ordered : nodes.Pairwise fun a b => a.stop ≤ b.start
  within : ∀ node ∈ nodes, low ≤ node.start ∧ node.stop ≤ high

theorem InOrder.tail {low high : Nat} {node : Node} (inOrder : InOrder low high (node :: nodes)) :
    InOrder low high nodes where
  forward later member := inOrder.forward later (List.mem_cons_of_mem node member)
  ordered := inOrder.ordered.tail
  within later member := inOrder.within later (List.mem_cons_of_mem node member)

/-- The nodes behind the first one stand behind its end. -/
theorem InOrder.behind {low high : Nat} {node : Node}
    (inOrder : InOrder low high (node :: nodes)) : InOrder node.stop high nodes where
  forward := inOrder.tail.forward
  ordered := inOrder.tail.ordered
  within later member :=
    ⟨List.rel_of_pairwise_cons inOrder.ordered member, (inOrder.tail.within later member).2⟩

theorem InOrder.first {low high : Nat} {node : Node}
    (inOrder : InOrder low high (node :: nodes)) :
    low ≤ node.start ∧ node.start ≤ node.stop ∧ node.stop ≤ high := by
  have forward := inOrder.forward node List.mem_cons_self
  have within := inOrder.within node List.mem_cons_self
  exact ⟨within.1, forward, within.2⟩

theorem bounds_of_mem_chunksFrom {low high : Nat} (inOrder : InOrder low high nodes)
    (behind : low ≤ place) (closes : close ≤ high) (member : p ∈ chunksFrom place close nodes) :
    low ≤ p.start ∧ p.start < p.stop ∧ p.stop ≤ high := by
  induction nodes generalizing low place with
  | nil =>
      rcases mem_chunkBetween.mp member with ⟨rfl, nonempty⟩
      exact ⟨behind, nonempty, closes⟩
  | cons node nodes ih =>
      rw [chunksFrom] at member
      split at member
      · have first := inOrder.first
        rcases List.mem_append.mp member with here | later
        · rcases mem_chunkBetween.mp here with ⟨rfl, nonempty⟩
          exact ⟨behind, nonempty, Nat.le_trans first.2.1 first.2.2⟩
        · have bounds := ih inOrder.behind (Nat.le_refl _) later
          omega
      · exact ih inOrder.tail behind member

theorem kind_of_mem_chunksFrom (member : p ∈ chunksFrom place close nodes) :
    p.kind = .templateChunk := by
  induction nodes generalizing place with
  | nil =>
      rcases mem_chunkBetween.mp member with ⟨rfl, _⟩
      rfl
  | cons node nodes ih =>
      rw [chunksFrom] at member
      split at member
      · rcases List.mem_append.mp member with here | later
        · rcases mem_chunkBetween.mp here with ⟨rfl, _⟩
          rfl
        · exact ih later
      · exact ih member

theorem pairwise_chunksFrom {low high : Nat} (inOrder : InOrder low high nodes)
    (closes : close ≤ high) :
    (chunksFrom place close nodes).Pairwise fun p q => p.stop ≤ q.start := by
  induction nodes generalizing low place with
  | nil =>
      rw [chunksFrom, chunkBetween]
      split
      · exact List.pairwise_singleton _ _
      · exact .nil
  | cons node nodes ih =>
      rw [chunksFrom]
      split
      · rw [List.pairwise_append]
        refine ⟨?_, ih inOrder.behind, ?_⟩
        · rw [chunkBetween]
          split
          · exact List.pairwise_singleton _ _
          · exact .nil
        · intro p here q later
          have first := inOrder.first
          have bounds := bounds_of_mem_chunksFrom inOrder.behind (Nat.le_refl _) closes later
          rcases mem_chunkBetween.mp here with ⟨rfl, _⟩
          exact Nat.le_trans first.2.1 bounds.1
      · exact ih inOrder.tail

/-- A chunk shares no byte with a substitution. -/
theorem avoids_of_mem_chunksFrom {low high : Nat} (inOrder : InOrder low high nodes)
    (closes : close ≤ high) (member : p ∈ chunksFrom place close nodes) :
    ∀ node ∈ nodes, node.kind = .substitution → p.Avoids node := by
  induction nodes generalizing low place with
  | nil => simp
  | cons node nodes ih =>
      have first := inOrder.first
      rw [chunksFrom] at member
      split at member
      · rcases List.mem_append.mp member with here | later
        · rcases mem_chunkBetween.mp here with ⟨rfl, _⟩
          intro other otherMem _
          left
          rcases List.mem_cons.mp otherMem with rfl | otherLater
          · exact Nat.le_refl _
          · have behind := inOrder.behind.within other otherLater
            exact Nat.le_trans first.2.1 behind.1
        · have bounds := bounds_of_mem_chunksFrom inOrder.behind (Nat.le_refl _) closes later
          intro other otherMem isSubstitution
          rcases List.mem_cons.mp otherMem with rfl | otherLater
          · exact .inr bounds.1
          · exact ih inOrder.behind later other otherLater isSubstitution
      · rename_i noSubstitution
        intro other otherMem isSubstitution
        rcases List.mem_cons.mp otherMem with rfl | otherLater
        · contradiction
        · exact ih inOrder.tail member other otherLater isSubstitution

end Chunks

/-! ## Passages of a node -/

section Nodes

variable {skipModules : Bool} {data : List UInt8} {visit : Visit} {p : Passage}

theorem stringPassages_cases (skipModules : Bool) (data : List UInt8) (visit : Visit) :
    stringPassages skipModules data visit = []
    ∨ ∃ kind, stringPassages skipModules data visit =
        [⟨kind, visit.node.start, visit.node.stop⟩]
      ∧ isEnclosed (slice data visit.node.start visit.node.stop) = true := by
  unfold stringPassages
  split
  · exact .inl rfl
  · split
    · rename_i enclosed
      exact .inr ⟨_, rfl, enclosed⟩
    · exact .inl rfl

theorem templatePassages_cases (data : List UInt8) (node : Node) :
    templatePassages data node = []
    ∨ templatePassages data node = chunksFrom (node.start + 1) (node.stop - 1) node.children := by
  unfold templatePassages
  split
  · exact .inl rfl
  · split
    · exact .inr rfl
    · exact .inl rfl

/-- A node yields nothing, or its whole range and nothing below, or the chunks of a
template, and then the search goes on in the substitutions. -/
theorem ownPassages_cases (skipModules : Bool) (data : List UInt8) (visit : Visit) :
    ownPassages skipModules data visit = []
    ∨ (∃ kind, ownPassages skipModules data visit = [⟨kind, visit.node.start, visit.node.stop⟩]
        ∧ visit.node.start < visit.node.stop ∧ descents visit = []
        ∧ (kind = .string ∨ kind = .attribute →
          isEnclosed (slice data visit.node.start visit.node.stop) = true))
    ∨ (ownPassages skipModules data visit =
          chunksFrom (visit.node.start + 1) (visit.node.stop - 1) visit.node.children
        ∧ descents visit = visit.children (substitutions visit.node)) := by
  unfold ownPassages descents
  by_cases empty : visit.node.stop ≤ visit.node.start
  · rw [if_pos empty]
    exact .inl rfl
  · rw [if_neg empty, if_neg empty]
    have nonempty := Nat.lt_of_not_le empty
    cases visit.node.kind with
    | string =>
        rcases stringPassages_cases skipModules data visit with isNil | ⟨kind, isSingle, enclosed⟩
        · exact .inl isNil
        · exact .inr (.inl ⟨kind, isSingle, nonempty, rfl, fun _ => enclosed⟩)
    | template =>
        rcases templatePassages_cases data visit.node with isNil | areChunks
        · exact .inl isNil
        · exact .inr (.inr ⟨areChunks, rfl⟩)
    | markupText => exact .inr (.inl ⟨_, rfl, nonempty, rfl, by simp⟩)
    | comment => exact .inr (.inl ⟨_, rfl, nonempty, rfl, by simp⟩)
    | _ => exact .inl rfl

theorem Node.Nested.inOrder {node : Node} (nested : node.Nested) :
    InOrder node.start node.stop node.children := by
  cases nested with
  | intro _ within ordered below =>
      exact ⟨fun child member => (below child member).forward, ordered, within⟩

theorem within_of_mem_ownPassages (nested : visit.node.Nested)
    (member : p ∈ ownPassages skipModules data visit) : p.Within visit.node := by
  rcases ownPassages_cases skipModules data visit with
    isNil | ⟨kind, isSingle, nonempty, _, _⟩ | ⟨areChunks, _⟩
  · rw [isNil] at member
    contradiction
  · rw [isSingle, List.mem_singleton] at member
    rw [member]
    exact ⟨Nat.le_refl _, nonempty, Nat.le_refl _⟩
  · rw [areChunks] at member
    exact bounds_of_mem_chunksFrom nested.inOrder (Nat.le_succ _) (Nat.sub_le _ _) member

theorem pairwise_ownPassages (nested : visit.node.Nested) :
    (ownPassages skipModules data visit).Pairwise Passage.Apart := by
  rcases ownPassages_cases skipModules data visit with
    isNil | ⟨kind, isSingle, _, _, _⟩ | ⟨areChunks, _⟩
  · rw [isNil]
    exact .nil
  · rw [isSingle]
    exact List.pairwise_singleton _ _
  · rw [areChunks]
    exact (pairwise_chunksFrom nested.inOrder (Nat.sub_le _ _)).imp .inl

/-- The search goes on where the node has no passage of its own. -/
theorem avoids_of_mem_descents (nested : visit.node.Nested)
    (member : p ∈ ownPassages skipModules data visit) :
    ∀ below ∈ descents visit, p.Avoids below.node := by
  rcases ownPassages_cases skipModules data visit with
    isNil | ⟨kind, _, _, noDescents, _⟩ | ⟨areChunks, areSubstitutions⟩
  · rw [isNil] at member
    contradiction
  · simp [noDescents]
  · rw [areChunks] at member
    intro below belowMem
    rw [areSubstitutions] at belowMem
    rcases List.mem_map.mp belowMem with ⟨node, nodeMem, rfl⟩
    rcases List.mem_filter.mp nodeMem with ⟨isChild, isSubstitution⟩
    exact avoids_of_mem_chunksFrom nested.inOrder (Nat.sub_le _ _) member node isChild
      (by simpa using isSubstitution)

end Nodes

/-! ## Work lists -/

/-- The nodes that wait stand in order, and each has a nested tree. -/
structure Waiting (pending : List Visit) : Prop where
  nested : ∀ visit ∈ pending, visit.node.Nested
  ordered : pending.Pairwise fun a b => a.node.stop ≤ b.node.start

section WorkLists

variable {skipModules : Bool} {data : List UInt8} {visit : Visit} {pending : List Visit}
  {p : Passage}

theorem map_node_children (visit : Visit) (nodes : List Node) :
    (visit.children nodes).map Visit.node = nodes := by
  simp [Visit.children, Function.comp_def]

theorem map_node_descents_sublist (visit : Visit) :
    ((descents visit).map Visit.node).Sublist visit.node.children := by
  unfold descents
  split
  · exact List.nil_sublist _
  · split
    · exact List.nil_sublist _
    · exact List.nil_sublist _
    · exact List.nil_sublist _
    · rw [map_node_children]
      exact List.filter_sublist
    · simp [map_node_children]

theorem mem_children_of_mem_descents {below : Visit} (member : below ∈ descents visit) :
    below.node ∈ visit.node.children :=
  (map_node_descents_sublist visit).subset (List.mem_map_of_mem member)

/-- What waits after a step stands in order again. -/
theorem Waiting.step (waiting : Waiting (visit :: pending)) :
    Waiting (descents visit ++ pending) := by
  have nested := waiting.nested visit List.mem_cons_self
  have inOrder := nested.inOrder
  constructor
  · intro other member
    rcases List.mem_append.mp member with below | later
    · cases nested with
      | intro _ _ _ belowNested => exact belowNested _ (mem_children_of_mem_descents below)
    · exact waiting.nested other (List.mem_cons_of_mem visit later)
  · rw [List.pairwise_append]
    refine ⟨?_, waiting.ordered.tail, ?_⟩
    · exact List.pairwise_map.mp (inOrder.ordered.sublist (map_node_descents_sublist visit))
    · intro below belowMem later laterMem
      have within := inOrder.within _ (mem_children_of_mem_descents belowMem)
      exact Nat.le_trans within.2 (List.rel_of_pairwise_cons waiting.ordered laterMem)

/-- A collected passage lies in the range of a node that waited. -/
theorem exists_within_of_mem_collect (waiting : Waiting pending)
    (member : p ∈ collect skipModules data pending) : ∃ visit ∈ pending, p.Within visit.node := by
  induction pending using collect.induct with
  | case1 =>
      rw [collect_nil] at member
      contradiction
  | case2 visit pending ih =>
      have nested := waiting.nested visit List.mem_cons_self
      rw [collect_cons] at member
      rcases List.mem_append.mp member with own | later
      · exact ⟨visit, List.mem_cons_self, within_of_mem_ownPassages nested own⟩
      · rcases ih waiting.step later with ⟨other, otherMem, within⟩
        rcases List.mem_append.mp otherMem with below | waits
        · have bounds := nested.inOrder.within _ (mem_children_of_mem_descents below)
          refine ⟨visit, List.mem_cons_self, ?_, within.2.1, ?_⟩
          · exact Nat.le_trans bounds.1 within.1
          · exact Nat.le_trans within.2.2 bounds.2
        · exact ⟨other, List.mem_cons_of_mem visit waits, within⟩

/-- Collected passages share no byte. -/
theorem pairwise_collect (waiting : Waiting pending) :
    (collect skipModules data pending).Pairwise Passage.Apart := by
  induction pending using collect.induct with
  | case1 =>
      rw [collect_nil]
      exact .nil
  | case2 visit pending ih =>
      have nested := waiting.nested visit List.mem_cons_self
      rw [collect_cons, List.pairwise_append]
      refine ⟨pairwise_ownPassages nested, ih waiting.step, ?_⟩
      intro p own q later
      rcases exists_within_of_mem_collect waiting.step later with ⟨other, otherMem, within⟩
      rcases List.mem_append.mp otherMem with below | waits
      · rcases avoids_of_mem_descents nested own other below with before | behind
        · exact .inl (Nat.le_trans before within.1)
        · exact .inr (Nat.le_trans within.2.2 behind)
      · have ownWithin := within_of_mem_ownPassages nested own
        have apart := List.rel_of_pairwise_cons waiting.ordered waits
        exact .inl (Nat.le_trans ownWithin.2.2 (Nat.le_trans apart within.1))

/-- A string or an attribute value is collected with the quotes that enclose it. -/
theorem isEnclosed_of_mem_collect (member : p ∈ collect skipModules data pending)
    (quoted : p.kind = .string ∨ p.kind = .attribute) :
    isEnclosed (slice data p.start p.stop) = true := by
  induction pending using collect.induct with
  | case1 =>
      rw [collect_nil] at member
      contradiction
  | case2 visit pending ih =>
      rw [collect_cons] at member
      rcases List.mem_append.mp member with own | later
      · rcases ownPassages_cases skipModules data visit with
          isNil | ⟨kind, isSingle, _, _, enclosed⟩ | ⟨areChunks, _⟩
        · rw [isNil] at own
          contradiction
        · rw [isSingle, List.mem_singleton] at own
          subst own
          exact enclosed quoted
        · rw [areChunks] at own
          rw [kind_of_mem_chunksFrom own] at quoted
          simp at quoted
      · exact ih later

end WorkLists

/-! ## Passages of a tree -/

section Trees

variable {root : Node} {data : List UInt8} {p : Passage}

theorem waiting_root (nested : root.Nested) : Waiting [.root root] :=
  ⟨List.forall_mem_singleton.mpr nested, List.pairwise_singleton _ _⟩

theorem pairwise_passagesOf (skipModules : Bool) (data : List UInt8) (nested : root.Nested) :
    (passagesOf skipModules data root).Pairwise Passage.Apart :=
  pairwise_collect (waiting_root nested)

theorem isEnclosed_of_mem_passagesOf {skipModules : Bool}
    (member : p ∈ passagesOf skipModules data root) (quoted : p.kind = .string ∨ p.kind = .attribute) :
    isEnclosed (slice data p.start p.stop) = true :=
  isEnclosed_of_mem_collect member quoted

theorem within_of_mem_passagesOf {skipModules : Bool} (nested : root.Nested)
    (member : p ∈ passagesOf skipModules data root) : p.Within root := by
  rcases exists_within_of_mem_collect (waiting_root nested) member with ⟨visit, isRoot, within⟩
  rw [List.mem_singleton.mp isRoot] at within
  exact within

end Trees

end CodeGloss.Syntax
