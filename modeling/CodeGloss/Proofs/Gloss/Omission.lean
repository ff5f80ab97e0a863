import CodeGloss.Proofs.Gloss.Recording

/-!
# Patches that differ by some segments

Of the segments of a patch some can be left out. The source and the code then lie beside a text
between them: the segments that remain lead from the source there, and those that were left out
lead from there to the code, moved by what the others have made longer.
-/

namespace CodeGloss.Gloss

open Text Segment

/-- The segment in a text that has its range `moved` further on. -/
def Segment.movedBy (moved : Int) (s : Segment) : Segment :=
  { s with start := s.start + moved, stop := s.stop + moved }

/-- The segment in the text where other segments have been replaced. -/
def Segment.movedPast (others : List Segment) (s : Segment) : Segment :=
  s.movedBy (growthBefore others s.start)

/-- The segments that a result has and another one lacks. -/
def GlossedCode.segmentsBeyond (full less : GlossedCode) : List Segment :=
  full.segments.filter fun s => s ∉ less.segments

/-- A result as a patch of the code of another one: with the segments that the other one lacks,
where they stand in that code. -/
def GlossedCode.past (full less : GlossedCode) : GlossedCode where
  language := full.language
  code := full.code
  usedFallback := full.usedFallback
  segments := (full.segmentsBeyond less).map (movedPast less.segments)
  stringReplacements := (full.segmentsBeyond less).countP (·.kind == .string)
  commentReplacements := (full.segmentsBeyond less).countP (·.kind == .comment)

/-- A result has the segments of another one but those that are left out, and the code of the
other one with these taken back. -/
structure LeavesOut (out : Segment → Prop) (full less : GlossedCode) : Prop where
  language : less.language = full.language
  usedFallback : less.usedFallback = full.usedFallback
  segments : less.segments.Sublist full.segments
  leftOut : ∀ s ∈ full.segments, s ∉ less.segments ↔ out s
  strings : full.stringReplacements =
    less.stringReplacements + (full.segmentsBeyond less).length
  comments : full.commentReplacements = less.commentReplacements
  codes : IsExactPatch less.code (full.past less)

/-! ## Weaves -/

namespace Weave

variable {place : Nat} {segments : List Segment} {source code : List Char}

/-- The segments that are kept lead to a text from which the others lead on. -/
theorem split (weave : Weave place segments source code)
    (nonempty : ∀ s ∈ segments, s.source ≠ []) (keep : Segment → Bool) :
    ∃ middle, Weave place (segments.filter keep) source middle
      ∧ ∀ (there : Nat) (moved : Int), (there : Int) = place + moved →
        Weave there ((segments.filter fun s => !keep s).map fun s =>
          s.movedBy (moved + growthBefore (segments.filter keep) s.start)) middle code := by
  induction weave with
  | done place => exact ⟨[], .done place, fun there _ _ => .done there⟩
  | @keep place segments source code c _ ih =>
      obtain ⟨middle, first, second⟩ := ih nonempty
      refine ⟨c :: middle, .keep c first, ?_⟩
      intro there moved place'
      exact .keep c (second (there + 1) moved (by omega))
  | @swap place segments source code s start stop tail ih =>
      obtain ⟨middle, first, second⟩ := ih fun t member =>
        nonempty t (List.mem_cons_of_mem s member)
      have positive := List.length_pos_iff.mpr (nonempty s List.mem_cons_self)
      by_cases kept : keep s = true
      · refine ⟨s.translated ++ middle, ?_, ?_⟩
        · rw [List.filter_cons_of_pos kept]
          exact .swap start stop first
        · intro there moved place'
          -- behind a segment that is kept, the others stand where its growth has moved them
          have movedOn : (segments.filter fun t => !keep t).map (fun t =>
                t.movedBy (moved + growthBefore (s :: segments.filter keep) t.start)) =
              (segments.filter fun t => !keep t).map fun t =>
                t.movedBy (moved + s.growth + growthBefore (segments.filter keep) t.start) := by
            apply List.map_congr_left
            intro t member
            have inTail := tail.bounds (List.mem_filter.mp member).1
            rw [growthBefore_cons, if_pos (by omega), Int.add_assoc]
          rw [List.filter_cons_of_pos kept, List.filter_cons_of_neg (by simp [kept]), movedOn]
          apply keepAll
          apply second
          rw [growth]
          omega
      · refine ⟨s.source ++ middle, ?_, ?_⟩
        · rw [List.filter_cons_of_neg kept]
          exact keepAll first
        · intro there moved place'
          have still : growthBefore (segments.filter keep) s.start = 0 := by
            apply growthBefore_eq_zero
            intro t member
            have inTail := tail.bounds (List.mem_filter.mp member).1
            omega
          rw [List.filter_cons_of_neg kept, List.filter_cons_of_pos (by simp [kept]),
            List.map_cons, still, Int.add_zero]
          apply Weave.swap (s := s.movedBy moved)
          · simp only [movedBy]
            omega
          · simp only [movedBy]
            omega
          · apply second
            simp only [movedBy]
            omega

end Weave

/-- Leaving segments out does not change the order of the others. -/
theorem inSourceOrder_filter {segments : List Segment} (nonempty : ∀ s ∈ segments, s.start < s.stop)
    (apart : segments.Pairwise Apart) (keep : Segment → Bool) :
    inSourceOrder (segments.filter keep) = (inSourceOrder segments).filter keep := by
  have keptNonempty := fun s (member : s ∈ segments.filter keep) =>
    nonempty s (List.mem_filter.mp member).1
  have perm : (inSourceOrder (segments.filter keep)).Perm ((inSourceOrder segments).filter keep) :=
    (inSourceOrder_perm _).trans ((inSourceOrder_perm segments).symm.filter keep)
  apply eq_of_perm_of_ordered perm
  · exact fun s member => keptNonempty s (mem_inSourceOrder.mp member)
  · exact ordered_inSourceOrder keptNonempty (apart.filter keep)
  · exact (ordered_inSourceOrder nonempty apart).filter keep

section Results

variable {source : List Char} {full less : GlossedCode} {keep : Segment → Bool}

theorem Weave.code_unique {place : Nat} {segments : List Segment} {code other : List Char}
    (weave : Weave place segments source code) (otherWeave : Weave place segments source other) :
    code = other := by
  have isCode := weave.applyEach_edit (List.replicate place ' ') List.length_replicate
  rw [otherWeave.applyEach_edit _ List.length_replicate] at isCode
  exact (List.append_cancel_left isCode).symm

theorem segmentsBeyond_of_filter (isFilter : less.segments = full.segments.filter keep) :
    full.segmentsBeyond less = full.segments.filter fun s => !keep s := by
  rw [GlossedCode.segmentsBeyond, isFilter]
  apply List.filter_congr
  intro s member
  simp [List.mem_filter, member]

theorem countP_movedPast (others segments : List Segment) (kind : Segment.Kind) :
    (segments.map (movedPast others)).countP (·.kind == kind) =
      segments.countP (·.kind == kind) := by
  rw [List.countP_map]
  rfl

/-- Where a patch has some of the segments of another one, the segments that it lacks patch its
code. -/
theorem isExactPatch_past (patch : IsExactPatch source full)
    (weave : Weave 0 full.segments source full.code)
    (lessWeave : Weave 0 less.segments source less.code)
    (isFilter : less.segments = full.segments.filter keep) :
    IsExactPatch less.code (full.past less) := by
  have nonempty : ∀ s ∈ full.segments, s.source ≠ [] := by
    intro s member empty
    have inside := patch.inside s member
    have bounds := weave.bounds member
    rw [empty, List.length_nil] at bounds
    omega
  obtain ⟨middle, first, second⟩ := weave.split nonempty keep
  have isMiddle : less.code = middle := by
    rw [isFilter] at lessWeave
    exact lessWeave.code_unique first
  have beyond := segmentsBeyond_of_filter isFilter
  have onward := second 0 0 rfl
  simp only [Int.zero_add, ← isFilter, ← beyond, ← isMiddle] at onward
  have isBeyond : ∀ t ∈ (full.past less).segments, ∃ s ∈ full.segments,
      t.source = s.source ∧ t.translated = s.translated := by
    intro t member
    rcases List.mem_map.mp member with ⟨s, sMem, rfl⟩
    exact ⟨s, (List.mem_filter.mp sMem).1, rfl, rfl⟩
  apply IsExactPatch.of_weave onward
  · intro t member
    rcases isBeyond t member with ⟨s, sMem, sameSource, _⟩
    rw [sameSource]
    exact nonempty s sMem
  · intro t member
    rcases isBeyond t member with ⟨s, sMem, sameSource, sameTranslated⟩
    rw [sameSource, sameTranslated]
    exact patch.differs s sMem
  · exact congrArg Nat.cast (countP_movedPast _ _ _).symm
  · exact congrArg Nat.cast (countP_movedPast _ _ _).symm

/-- Patches of which one has the segments of the other without some strings leave these out. -/
theorem leavesOut_of_filter {out : Segment → Prop} (language : less.language = full.language)
    (usedFallback : less.usedFallback = full.usedFallback) (patch : IsExactPatch source full)
    (lessPatch : IsExactPatch source less) (weave : Weave 0 full.segments source full.code)
    (lessWeave : Weave 0 less.segments source less.code)
    (isFilter : less.segments = full.segments.filter keep)
    (leftOut : ∀ s ∈ full.segments, keep s = false ↔ out s)
    (strings : ∀ s ∈ full.segments, out s → s.kind = .string) : LeavesOut out full less := by
  have beyond := segmentsBeyond_of_filter isFilter
  have allStrings : ∀ s ∈ full.segments.filter fun s => !keep s, s.kind = .string := by
    intro s member
    rcases List.mem_filter.mp member with ⟨inFull, isOut⟩
    exact strings s inFull ((leftOut s inFull).mp (Bool.not_eq_true' _ ▸ isOut))
  constructor
  · exact language
  · exact usedFallback
  · rw [isFilter]
    exact List.filter_sublist
  · intro s member
    rw [← leftOut s member, isFilter, List.mem_filter]
    simp [member]
  · rw [patch.strings, lessPatch.strings, beyond, isFilter,
      List.countP_eq_countP_filter_add full.segments _ keep, Nat.cast_add]
    congr 2
    rw [List.countP_eq_length]
    intro s member
    rw [allStrings s member]
    rfl
  · rw [patch.comments, lessPatch.comments, isFilter,
      List.countP_eq_countP_filter_add full.segments _ keep]
    congr 1
    rw [Nat.add_eq_left, List.countP_eq_zero]
    intro s member isComment
    rw [allStrings s member] at isComment
    contradiction
  · exact isExactPatch_past patch weave lessWeave isFilter

end Results

end CodeGloss.Gloss
