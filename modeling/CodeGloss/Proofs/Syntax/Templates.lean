import CodeGloss.Proofs.Syntax.Nesting

/-!
# Chunks and substitutions of a template

The chunks of a template are the gaps that its substitutions leave. Each of them ends where a
substitution starts or the template closes, and the next one begins where the substitution stops.
So the search, which takes the chunks and goes on in the substitutions, comes by every byte between
the ends of the template once.
-/

namespace CodeGloss.Syntax

open Text

/-- Whether the byte at a place is one of the passage. -/
def Passage.hasByte (place : Nat) (p : Passage) : Bool :=
  p.start ≤ place && place < p.stop

/-- Whether the byte at a place is one of the node. -/
def Node.hasByte (place : Nat) (node : Node) : Bool :=
  node.start ≤ place && place < node.stop

/-- A node that starts and ends with the byte that encloses a template. Its substitutions have
bytes and stand in order between. Other children may stand anywhere. -/
structure Node.IsTemplate (data : List UInt8) (node : Node) : Prop where
  long : node.start + 2 ≤ node.stop
  opens : slice data node.start (node.start + 1) = [templateByte]
  closes : slice data (node.stop - 1) node.stop = [templateByte]
  nonempty : ∀ part ∈ substitutions node, part.start < part.stop
  ordered : (substitutions node).Pairwise fun a b => a.stop ≤ b.start
  between : ∀ part ∈ substitutions node, node.start < part.start ∧ part.stop < node.stop

/-- Chunks and the substitutions of a template partition the bytes between its ends. -/
structure Partitions (node : Node) (chunks : List Passage) : Prop where
  kind : ∀ p ∈ chunks, p.kind = .templateChunk
  nonempty : ∀ p ∈ chunks, p.start < p.stop
  between : ∀ p ∈ chunks, node.start < p.start ∧ p.stop < node.stop
  avoids : ∀ p ∈ chunks, ∀ part ∈ substitutions node, p.Avoids part
  once : ∀ place, node.start < place → place + 1 < node.stop →
    chunks.countP (·.hasByte place) + (substitutions node).countP (·.hasByte place) = 1
  outside : ∀ place, node.start < place → place + 1 < node.stop →
    (∀ part ∈ substitutions node, part.hasByte place = false) →
      chunks.countP (·.hasByte place) = 1

/-! ## Gaps between the children -/

section Gaps

variable {nodes : List Node} {place close : Nat}

/-- Children that are no substitutions make no difference. -/
theorem chunksFrom_filter (place close : Nat) (nodes : List Node) :
    chunksFrom place close (nodes.filter fun node => node.kind == .substitution) =
      chunksFrom place close nodes := by
  induction nodes generalizing place with
  | nil => rfl
  | cons node nodes ih =>
      by_cases isSubstitution : node.kind = .substitution
      · rw [List.filter_cons_of_pos (by simpa using isSubstitution), chunksFrom, chunksFrom,
          if_pos isSubstitution, if_pos isSubstitution, ih]
      · rw [List.filter_cons_of_neg (by simpa using isSubstitution), chunksFrom,
          if_neg isSubstitution, ih]

theorem countP_chunkBetween (start stop byte : Nat) :
    (chunkBetween start stop).countP (·.hasByte byte) =
      if start ≤ byte ∧ byte < stop then 1 else 0 := by
  unfold chunkBetween
  split
  · simp [Passage.hasByte]
  · rename_i empty
    rw [if_neg (by omega)]
    rfl

theorem countP_node_cons (node : Node) (nodes : List Node) (byte : Nat) :
    (node :: nodes).countP (·.hasByte byte) =
      nodes.countP (·.hasByte byte) + if node.start ≤ byte ∧ byte < node.stop then 1 else 0 := by
  rw [List.countP_cons, Node.hasByte]
  simp

/-- Two ranges that join have each byte from the first to the last once. -/
theorem ite_range_add {first middle last : Nat} (byte : Nat) (opening : first ≤ middle)
    (closing : middle ≤ last) :
    ((if first ≤ byte ∧ byte < middle then 1 else 0)
      + if middle ≤ byte ∧ byte < last then 1 else 0) =
      if first ≤ byte ∧ byte < last then 1 else 0 := by
  rcases Nat.lt_or_ge byte middle with before | behind
  · have notSecond : ¬ (middle ≤ byte ∧ byte < last) := by omega
    have inFirst : (first ≤ byte ∧ byte < middle) ↔ first ≤ byte ∧ byte < last := by omega
    simp only [inFirst, if_neg notSecond, Nat.add_zero]
  · have notFirst : ¬ (first ≤ byte ∧ byte < middle) := by omega
    have inSecond : (middle ≤ byte ∧ byte < last) ↔ first ≤ byte ∧ byte < last := by omega
    simp only [inSecond, if_neg notFirst, Nat.zero_add]

/-- Substitutions and the gaps around them have each byte up to the end once, and no other. -/
theorem countP_chunksFrom (parts : ∀ node ∈ nodes, node.kind = .substitution)
    (inOrder : InOrder place close nodes) (order : place ≤ close) (byte : Nat) :
    (chunksFrom place close nodes).countP (·.hasByte byte) + nodes.countP (·.hasByte byte) =
      if place ≤ byte ∧ byte < close then 1 else 0 := by
  induction nodes generalizing place with
  | nil => rw [chunksFrom, countP_chunkBetween, List.countP_nil, Nat.add_zero]
  | cons node nodes ih =>
      rcases List.forall_mem_cons.mp parts with ⟨isSubstitution, others⟩
      have first := inOrder.first
      have behind := ih others inOrder.behind first.2.2
      rw [chunksFrom, if_pos isSubstitution, List.countP_append, countP_chunkBetween,
        countP_node_cons]
      have upToPart := ite_range_add byte first.1 first.2.1
      have upToClose := ite_range_add byte (Nat.le_trans first.1 first.2.1) first.2.2
      omega

end Gaps

/-! ## Templates -/

section Templates

variable {data : List UInt8} {node : Node}

theorem kind_of_mem_substitutions {part : Node} (member : part ∈ substitutions node) :
    part.kind = .substitution := by
  simpa using (List.mem_filter.mp member).2

theorem Node.IsTemplate.inOrder (isTemplate : node.IsTemplate data) :
    InOrder (node.start + 1) (node.stop - 1) (substitutions node) where
  forward part member := Nat.le_of_lt (isTemplate.nonempty part member)
  ordered := isTemplate.ordered
  within part member := by
    have between := isTemplate.between part member
    omega

theorem Node.IsTemplate.templatePassages_eq (isTemplate : node.IsTemplate data) :
    templatePassages data node =
      chunksFrom (node.start + 1) (node.stop - 1) (substitutions node) := by
  have long := isTemplate.long
  rw [templatePassages, if_neg (by omega), if_pos ⟨isTemplate.opens, isTemplate.closes⟩,
    substitutions, chunksFrom_filter]

theorem Node.IsTemplate.partitions (isTemplate : node.IsTemplate data) :
    Partitions node (templatePassages data node) := by
  have long := isTemplate.long
  have inOrder := isTemplate.inOrder
  have once : ∀ place, node.start < place → place + 1 < node.stop →
      (templatePassages data node).countP (·.hasByte place)
        + (substitutions node).countP (·.hasByte place) = 1 := by
    intro place behind before
    rw [isTemplate.templatePassages_eq,
      countP_chunksFrom (fun _ => kind_of_mem_substitutions) inOrder (by omega),
      if_pos (by omega)]
  refine ⟨?_, ?_, ?_, ?_, once, ?_⟩
  · intro p member
    rw [isTemplate.templatePassages_eq] at member
    exact kind_of_mem_chunksFrom member
  · intro p member
    rw [isTemplate.templatePassages_eq] at member
    exact (bounds_of_mem_chunksFrom inOrder (Nat.le_refl _) (Nat.le_refl _) member).2.1
  · intro p member
    rw [isTemplate.templatePassages_eq] at member
    have bounds := bounds_of_mem_chunksFrom inOrder (Nat.le_refl _) (Nat.le_refl _) member
    omega
  · intro p member part isPart
    rw [isTemplate.templatePassages_eq] at member
    exact avoids_of_mem_chunksFrom inOrder (Nat.le_refl _) member part isPart
      (kind_of_mem_substitutions isPart)
  · intro place behind before noPart
    have none : (substitutions node).countP (·.hasByte place) = 0 := by
      rw [List.countP_eq_zero]
      intro part member
      rw [noPart part member]
      exact Bool.false_ne_true
    have one := once place behind before
    rwa [none, Nat.add_zero] at one

/-- From a template the search takes its chunks and goes on in its substitutions, and these
partition the bytes between its ends. -/
theorem template_partitions {visit : Visit} (isKind : visit.node.kind = .template)
    (isTemplate : visit.node.IsTemplate data) (skipModules : Bool) :
    ownPassages skipModules data visit = templatePassages data visit.node
      ∧ (descents visit).map Visit.node = substitutions visit.node
      ∧ Partitions visit.node (templatePassages data visit.node) := by
  have nonempty : ¬ visit.node.stop ≤ visit.node.start := by
    have long := isTemplate.long
    omega
  refine ⟨?_, ?_, isTemplate.partitions⟩
  · rw [ownPassages, if_neg nonempty, isKind]
  · rw [descents, if_neg nonempty, isKind]
    exact map_node_children visit _

/-- The first substitution stands right behind the opening byte and the last two touch, with
children of other kinds between. -/
theorem template_partitions_touching :
    let data := Utf8.encode "`$\x7ba\x7dx$\x7bb\x7d$\x7bc\x7dy`".toList
    let node : Node := ⟨.template, 0, 16, false, none, none,
      [.leaf .other 0 1, .leaf .substitution 1 5, .leaf .other 5 6, .leaf .substitution 6 10,
        .leaf .substitution 10 14, .leaf .other 15 16]⟩
    node.kind = .template ∧ node.IsTemplate data
      ∧ templatePassages data node = [⟨.templateChunk, 5, 6⟩, ⟨.templateChunk, 14, 15⟩]
      ∧ ownPassages true data (.root node) = templatePassages data node
      ∧ (descents (.root node)).map Visit.node = substitutions node
      ∧ Partitions node (templatePassages data node) := by
  intro data node
  have isTemplate : node.IsTemplate data := by
    constructor
    · decide
    · decide
    · decide
    · decide
    · decide
    · decide
  have isRoot : (Visit.root node).node.kind = .template := rfl
  refine ⟨isRoot, isTemplate, by decide, ?_⟩
  exact template_partitions isRoot isTemplate true

end Templates

end CodeGloss.Syntax
