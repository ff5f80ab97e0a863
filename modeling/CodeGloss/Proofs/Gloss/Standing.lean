import CodeGloss.Proofs.Gloss.SkippedModules

/-!
# What stands for a range

Source and code that lie beside each other can be cut where no segment lies across. Between two
cuts the code has what stands for a range of the source, as much further on as the segments before
have made the code longer. For the range of a passage this is what the passage was replaced by.
-/

namespace CodeGloss.Gloss

open Glossary Segment Syntax Text

/-- What the code has for the characters of the source between two places. -/
def GlossedCode.standingFor (result : GlossedCode) (first last : Nat) : List Char :=
  slice result.code (first + growthBefore result.segments first).toNat
    (last + growthBefore result.segments last).toNat

/-- The segments that end at a place or before it. -/
def endedBy (place : Nat) (segments : List Segment) : List Segment :=
  segments.filter fun s => s.stop ≤ (place : Int)

/-- The segments that end behind a place. -/
def endedBehind (place : Nat) (segments : List Segment) : List Segment :=
  segments.filter fun s => (place : Int) < s.stop

theorem mem_of_mem_between {first last : Nat} {segments : List Segment} {s : Segment}
    (inside : s ∈ endedBehind first (endedBy last segments)) : s ∈ segments :=
  (List.mem_filter.mp (List.mem_filter.mp inside).1).1

/-! ## Cuts -/

/-- No segment lies across the place. -/
def IsClear (segments : List Segment) (place : Nat) : Prop :=
  ∀ s ∈ segments, s.stop ≤ place ∨ (place : Int) ≤ s.start

namespace Weave

/-- A weave up to a place and the weave from there on. The code has the place as much further on
as it has grown before. -/
def CutAt (p place : Nat) (segments : List Segment) (source code : List Char) : Prop :=
  ∃ front back, code = front ++ back
    ∧ (front.length : Int) = p - place + growthBefore segments p
    ∧ Weave place (endedBy p segments) (source.take (p - place)) front
    ∧ Weave p (endedBehind p segments) (source.drop (p - place)) back

variable {place : Nat} {segments : List Segment} {source code : List Char}

/-- At its start a weave is cut into nothing and itself. -/
theorem cutAt_start (weave : Weave place segments source code)
    (nonempty : ∀ s ∈ segments, s.source ≠ []) : CutAt place place segments source code := by
  have later : ∀ s ∈ segments, (place : Int) < s.stop := by
    intro s member
    have bounds := weave.bounds member
    have positive := List.length_pos_iff.mpr (nonempty s member)
    omega
  have none : endedBy place segments = [] :=
    List.filter_eq_nil_iff.mpr fun s member => by simpa using later s member
  have all : endedBehind place segments = segments :=
    List.filter_eq_self.mpr fun s member => by simpa using later s member
  refine ⟨[], code, rfl, ?_, ?_, ?_⟩
  · rw [growthBefore_eq_zero later, List.length_nil]
    omega
  · rw [none, Nat.sub_self, List.take_zero]
    exact .done place
  · rw [all, Nat.sub_self, List.drop_zero]
    exact weave

/-- A weave can be cut at a place that lies inside no segment. -/
theorem cutAt (weave : Weave place segments source code) (nonempty : ∀ s ∈ segments, s.source ≠ [])
    {p : Nat} (reached : place ≤ p) (inText : p ≤ place + source.length)
    (clear : IsClear segments p) : CutAt p place segments source code := by
  induction weave with
  | done place =>
      rw [Nat.le_antisymm inText reached]
      exact cutAt_start (.done place) nonempty
  | @keep place segments source code c tail ih =>
      rcases Nat.eq_or_lt_of_le reached with rfl | beyond
      · exact cutAt_start (.keep c tail) nonempty
      rw [List.length_cons] at inText
      rcases ih nonempty beyond (by omega) clear with ⟨front, back, rfl, length, before, behind⟩
      have later : p - place = p - (place + 1) + 1 := by omega
      refine ⟨c :: front, back, rfl, ?_, ?_, ?_⟩
      · rw [List.length_cons]
        omega
      · rw [later, List.take_succ_cons]
        exact .keep c before
      · rw [later, List.drop_succ_cons]
        exact behind
  | @swap place segments source code s start stop tail ih =>
      rcases Nat.eq_or_lt_of_le reached with rfl | beyond
      · exact cutAt_start (.swap start stop tail) nonempty
      rw [List.length_append] at inText
      have ended : s.stop ≤ p := by
        rcases clear s List.mem_cons_self with ended | unstarted
        · exact ended
        · omega
      rcases ih (fun t member => nonempty t (List.mem_cons_of_mem s member)) (by omega) (by omega)
        (fun t member => clear t (List.mem_cons_of_mem s member)) with
        ⟨front, back, rfl, length, before, behind⟩
      have later : p - place = s.source.length + (p - (place + s.source.length)) := by omega
      refine ⟨s.translated ++ front, back, (List.append_assoc ..).symm, ?_, ?_, ?_⟩
      · rw [List.length_append, growthBefore_cons, if_pos ended, growth]
        omega
      · rw [endedBy, List.filter_cons_of_pos (by simpa using ended), later,
          List.take_length_add_append]
        exact .swap start stop before
      · rw [endedBehind, List.filter_cons_of_neg (by simpa using ended), later,
          List.drop_length_add_append]
        exact behind

/-- The code that stands for a range is woven of the segments in the range. -/
theorem between {segments : List Segment} (weave : Weave 0 segments source code)
    (nonempty : ∀ s ∈ segments, s.source ≠ []) {first last : Nat} (order : first ≤ last)
    (inText : last ≤ source.length) (clearFirst : IsClear segments first)
    (clearLast : IsClear segments last) :
    Weave first (endedBehind first (endedBy last segments)) (slice source first last)
      (slice code (first + growthBefore segments first).toNat
        (last + growthBefore segments last).toNat) := by
  have kept : ∀ s ∈ endedBy last segments, s ∈ segments := fun s member =>
    (List.mem_filter.mp member).1
  rcases weave.cutAt nonempty (Nat.zero_le last) (by omega) clearLast with
    ⟨upTo, after, rfl, upToLength, before, _⟩
  rw [Nat.sub_zero] at before
  rcases before.cutAt (fun s member => nonempty s (kept s member)) (Nat.zero_le first)
    (by rw [List.length_take]; omega) (fun s member => clearFirst s (kept s member)) with
    ⟨front, middle, rfl, frontLength, _, inside⟩
  have sameGrowth : growthBefore (endedBy last segments) first = growthBefore segments first := by
    rw [growthBefore, growthBefore, endedBy, List.filter_filter]
    congr 2
    apply List.filter_congr
    intro s _
    rw [Bool.eq_iff_iff, Bool.and_eq_true, decide_eq_true_eq, decide_eq_true_eq]
    omega
  rw [sameGrowth] at frontLength
  rw [List.length_append] at upToLength
  rw [List.append_assoc, slice_of_append (by omega) (by omega)]
  exact inside

/-- A weave whose segments each fill it has one of them at most. -/
theorem of_fill (weave : Weave place segments source code)
    (nonempty : ∀ s ∈ segments, s.source ≠ [])
    (fill : ∀ s ∈ segments, s.start = place ∧ s.stop = place + source.length) :
    segments = [] ∧ code = source ∨ ∃ s, segments = [s] ∧ code = s.translated := by
  cases segments with
  | nil => exact .inl ⟨rfl, weave.code_unique (.refl place source)⟩
  | cons s others =>
      have first := fill s List.mem_cons_self
      have alone : others = [] := by
        apply List.eq_nil_iff_forall_not_mem.mpr
        intro t member
        have positive := List.length_pos_iff.mpr (nonempty s List.mem_cons_self)
        have bounds := weave.bounds List.mem_cons_self
        have apart := List.rel_of_pairwise_cons weave.ordered member
        have other := fill t (List.mem_cons_of_mem s member)
        omega
      subst alone
      cases weave with
      | keep c tail =>
          have bounds := tail.bounds List.mem_cons_self
          omega
      | @swap _ _ rest code _ start stop tail =>
          rw [List.length_append] at first
          have nothing : rest = [] := List.length_eq_zero_iff.mp (by omega)
          rw [tail.code_unique (.refl _ rest), nothing, List.append_nil]
          exact .inr ⟨s, rfl, rfl⟩

end Weave

/-! ## Passages -/

section Passages

variable {entries : List Entry} {source language : List Char} {passages : List Passage}
  {result : GlossedCode} {p : Passage} {first last : Nat}

theorem IsExactPatch.source_ne_nil (patch : IsExactPatch source result) :
    ∀ s ∈ result.segments, s.source ≠ [] := by
  intro s member
  have inside := patch.inside s member
  have length := congrArg List.length (patch.original s member)
  rw [length_slice] at length
  rw [← List.length_pos_iff]
  omega

/-- A segment of a passage has the places of its ends. -/
theorem places_eq_of_passageSegment? {s : Segment}
    (made : passageSegment? entries source p = some s)
    (isFirst : placeOf? source p.start = some first)
    (isLast : placeOf? source p.stop = some last) : s.start = first ∧ s.stop = last := by
  rcases exists_places_of_passageSegment? made with ⟨start, stop, isStart, isStop, _, starts, stops⟩
  rw [isFirst, Option.some.injEq] at isStart
  rw [isLast, Option.some.injEq] at isStop
  rw [starts, stops, isStart, isStop]
  exact ⟨rfl, rfl⟩

/-- A segment of glossed passages that share no byte is that of a given passage, or lies beside its
range. -/
theorem passageSegment?_or_beside (apart : passages.Pairwise Passage.Apart)
    (glossed : glossPassages source passages entries language = .ok result)
    (member : p ∈ passages) (isFirst : placeOf? source p.start = some first)
    (isLast : placeOf? source p.stop = some last) {s : Segment} (isSegment : s ∈ result.segments) :
    (passageSegment? entries source p = some s ∧ s.start = first ∧ s.stop = last)
      ∨ s.stop ≤ first ∨ (last : Int) ≤ s.start := by
  rcases exists_passage_of_mem_segments glossed isSegment with ⟨q, isPassage, made⟩
  have meet : q = p ∨ q.Apart p :=
    List.Pairwise.forall_of_forall_of_flip (R := fun a b => a = b ∨ a.Apart b)
      (fun _ _ => .inl rfl) (apart.imp .inr) (apart.imp fun ab => .inr (Or.symm ab)) isPassage
      member
  rcases meet with rfl | beside
  · exact .inl ⟨made, places_eq_of_passageSegment? made isFirst isLast⟩
  · right
    rcases exists_places_of_passageSegment? made with ⟨_, _, isStart, isStop, _, starts, stops⟩
    rw [starts, stops]
    exact beside.imp (fun before => Int.ofNat_le.mpr (placeOf?_mono before isStop isFirst))
      fun behind => Int.ofNat_le.mpr (placeOf?_mono behind isLast isStart)

/-- What is woven between the ends of a passage is its segment, if it has one. -/
theorem mem_between_iff (patch : IsExactPatch source result)
    (segments : result.segments =
      inSourceOrder ((commentsLast passages).filterMap (passageSegment? entries source)))
    (apart : passages.Pairwise Passage.Apart)
    (glossed : glossPassages source passages entries language = .ok result)
    (member : p ∈ passages) (isFirst : placeOf? source p.start = some first)
    (isLast : placeOf? source p.stop = some last) {s : Segment} :
    s ∈ endedBehind first (endedBy last result.segments) ↔
      passageSegment? entries source p = some s := by
  simp only [endedBehind, endedBy, List.mem_filter, decide_eq_true_eq]
  constructor
  · rintro ⟨⟨isSegment, endsBefore⟩, endsBehind⟩
    have forward := (patch.inside s isSegment).2.1
    rcases passageSegment?_or_beside apart glossed member isFirst isLast isSegment with
      own | before | behind
    · exact own.1
    · omega
    · omega
  · intro made
    have isSegment : s ∈ result.segments := by
      rw [segments, mem_inSourceOrder]
      exact List.mem_filterMap.mpr ⟨p, (commentsLast_perm passages).mem_iff.mpr member, made⟩
    have forward := (patch.inside s isSegment).2.1
    have places := places_eq_of_passageSegment? made isFirst isLast
    exact ⟨⟨isSegment, by omega⟩, by omega⟩

/-- For the range of a passage the code has what the passage was replaced by, or what it was. -/
theorem standingFor_passage (keys : ∀ entry ∈ entries, entry.key ≠ [])
    (lie : ∀ p ∈ passages, LiesIn source p) (apart : passages.Pairwise Passage.Apart)
    (glossed : glossPassages source passages entries language = .ok result)
    (member : p ∈ passages) (isFirst : placeOf? source p.start = some first)
    (isLast : placeOf? source p.stop = some last) :
    result.standingFor first last =
      ((passageSegment? entries source p).map Segment.translated).getD
        (slice source first last) := by
  rcases weave_of_glossPassages keys glossed with ⟨segments, weave, patch⟩
  have own : ∀ {s}, s ∈ endedBehind first (endedBy last result.segments) ↔
      passageSegment? entries source p = some s :=
    mem_between_iff patch segments apart glossed member isFirst isLast
  have nonempty := patch.source_ne_nil
  have order : first ≤ last := placeOf?_mono (Nat.le_of_lt (lie p member).1) isFirst isLast
  have inText : last ≤ source.length := by
    rcases exists_placeOf? (lie p member).2 with ⟨place, bound, isPlace⟩
    rw [isLast, Option.some.injEq] at isPlace
    rwa [isPlace]
  have clear : ∀ place, place = first ∨ place = last → IsClear result.segments place := by
    intro place isEnd s isSegment
    rcases passageSegment?_or_beside apart glossed member isFirst isLast isSegment with
      ⟨_, starts, stops⟩ | before | behind
    · omega
    · omega
    · omega
  have woven := weave.between nonempty order inText (clear first (.inl rfl)) (clear last (.inr rfl))
  have fill : ∀ s ∈ endedBehind first (endedBy last result.segments),
      s.start = first ∧ s.stop = first + (slice source first last).length := by
    intro s inside
    have places := places_eq_of_passageSegment? (own.mp inside) isFirst isLast
    rw [length_slice]
    omega
  rcases woven.of_fill (fun s inside => nonempty s (mem_of_mem_between inside)) fill with
    ⟨isNil, same⟩ | ⟨s, isSingle, same⟩
  · have unchanged : passageSegment? entries source p = none := by
      rw [Option.eq_none_iff_forall_ne_some]
      intro s made
      have inside := own.mpr made
      rw [isNil] at inside
      contradiction
    rw [unchanged]
    exact same
  · rw [own.mp (isSingle ▸ List.mem_singleton_self s)]
    exact same

end Passages

end CodeGloss.Gloss
