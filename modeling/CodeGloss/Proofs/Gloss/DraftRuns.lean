import CodeGloss.Proofs.Gloss.Shapes
import CodeGloss.Proofs.Gloss.Splicing

/-!
# Runs of a draft

A draft is offered replacements and is finished, in any order and as often as one likes. An offer
is dropped or recorded, and to finish a draft changes nothing. So after any run the edits, the
segments and the counts tell of the same offers, and the ranges of these tell whether the draft can
be finished. If they have characters and do not meet, it makes no difference in which order the
offers came.
-/

namespace CodeGloss.Gloss

open Text

/-- What is asked of a draft. -/
inductive Draft.Call where
  | replace (offer : Offer)
  | finish

/-- What a draft answers. -/
inductive Draft.Answer where
  /-- Whether the replacement was recorded. -/
  | replaced (recorded : Bool)
  | finished (outcome : Except BadEdit GlossedCode)

namespace Draft

def answer (draft : Draft) : Call → Answer
  | .replace offer => .replaced (draft.wouldChange offer.start offer.stop offer.text)
  | .finish => .finished draft.finish

/-- The draft after a call. -/
def next (draft : Draft) : Call → Draft
  | .replace offer => draft.record offer.kind offer.start offer.stop offer.text
  | .finish => draft

/-- The draft after a run. -/
def after (draft : Draft) (calls : List Call) : Draft :=
  calls.foldl next draft

def Call.offer? : Call → Option Offer
  | replace offer => some offer
  | finish => none

/-- The offers of a run. -/
def offersOf (calls : List Call) : List Offer :=
  calls.filterMap Call.offer?

/-! ## One call -/

/-- A call with its answer and the draft after it. An offer that changes its range adds an edit and
a segment for it, and one to the count of its kind. -/
inductive Step (draft : Draft) : Call → Answer → Draft → Prop
  | drop {offer : Offer} (same : slice draft.source offer.start offer.stop = offer.text) :
      Step draft (.replace offer) (.replaced false) draft
  | string {offer : Offer} (differs : slice draft.source offer.start offer.stop ≠ offer.text)
      (noComment : offer.kind ≠ .comment) :
      Step draft (.replace offer) (.replaced true)
        { draft with
          edits := draft.edits ++ [⟨offer.start, offer.stop, offer.text⟩]
          segments := draft.segments ++ [⟨offer.kind,
            slice draft.source offer.start offer.stop, offer.text, offer.start, offer.stop⟩]
          stringReplacements := draft.stringReplacements + 1 }
  | comment {offer : Offer} (differs : slice draft.source offer.start offer.stop ≠ offer.text)
      (isComment : offer.kind = .comment) :
      Step draft (.replace offer) (.replaced true)
        { draft with
          edits := draft.edits ++ [⟨offer.start, offer.stop, offer.text⟩]
          segments := draft.segments ++ [⟨offer.kind,
            slice draft.source offer.start offer.stop, offer.text, offer.start, offer.stop⟩]
          commentReplacements := draft.commentReplacements + 1 }
  | finish : Step draft .finish (.finished draft.finish) draft

theorem wouldChange_eq_false_iff {draft : Draft} {start stop : Nat} {replacement : List Char} :
    draft.wouldChange start stop replacement = false ↔
      slice draft.source start stop = replacement := by
  rw [wouldChange, bne_eq_false_iff_eq]

theorem step_next (draft : Draft) (call : Call) :
    Step draft call (draft.answer call) (draft.next call) := by
  cases call with
  | finish => exact .finish
  | replace offer =>
      rw [answer, next, record]
      cases changes : draft.wouldChange offer.start offer.stop offer.text with
      | false => exact .drop (wouldChange_eq_false_iff.mp changes)
      | true =>
          have differs : slice draft.source offer.start offer.stop ≠ offer.text := by
            intro same
            rw [wouldChange_eq_false_iff.mpr same] at changes
            contradiction
          by_cases isComment : offer.kind = .comment
          · simp only [if_true, if_pos isComment, Nat.add_zero]
            exact .comment differs isComment
          · simp only [if_true, if_neg isComment, Nat.add_zero]
            exact .string differs isComment

/-! ## Runs -/

/-- What a run leaves of a draft is what its offers leave. -/
theorem after_eq_recordAll (draft : Draft) (calls : List Call) :
    draft.after calls = draft.recordAll (offersOf calls) := by
  induction calls generalizing draft with
  | nil => rfl
  | cons call calls ih =>
      cases call with
      | replace offer => exact ih (draft.next (.replace offer))
      | finish => exact ih draft

section Runs

variable {source language : List Char} {offers others : List Offer}

/-- The segments of the offers that are recorded. -/
def segmentsOf (source : List Char) (offers : List Offer) : List Segment :=
  offers.filterMap (Offer.segment? source)

theorem segments_recordAll_empty (source language : List Char) (offers : List Offer) :
    ((empty source language).recordAll offers).segments = segmentsOf source offers := by
  rw [segments_recordAll]
  rfl

theorem edits_recordAll_empty (source language : List Char) (offers : List Offer) :
    ((empty source language).recordAll offers).edits =
      (segmentsOf source offers).map Segment.edit := by
  rw [((inStep_empty source language).recordAll offers).edits, segments_recordAll_empty]

/-- All ranges lie in the source, and of any two one ends no later than the other starts. -/
structure Spread (source : List Char) (segments : List Segment) : Prop where
  inside : ∀ s ∈ segments, s.start ≤ s.stop ∧ s.stop ≤ source.length
  apart : segments.Pairwise Segment.Apart

theorem start_nonneg_of_mem_segmentsOf :
    ∀ s ∈ segmentsOf source offers, 0 ≤ s.start := by
  intro s member
  rcases List.mem_filterMap.mp member with ⟨offer, _, isSegment⟩
  rw [(Offer.segment?_eq_some_iff.mp isSegment).1]
  exact Int.natCast_nonneg _

theorem fit_iff_spread :
    Fit source ((segmentsOf source offers).map Segment.edit) ↔
      Spread source (segmentsOf source offers) := by
  constructor
  · rintro ⟨inside, apart⟩
    constructor
    · intro s member
      exact (inside s.edit (List.mem_map_of_mem member)).2
    · exact (List.pairwise_map.mp apart).imp fun editsApart => editsApart
  · rintro ⟨inside, apart⟩
    constructor
    · intro edit member
      rcases List.mem_map.mp member with ⟨s, segmentMem, rfl⟩
      exact ⟨start_nonneg_of_mem_segmentsOf s segmentMem, inside s segmentMem⟩
    · exact List.pairwise_map.mpr (apart.imp fun segmentsApart => segmentsApart)

/-- A draft that cannot be finished is refused for the range of one of its segments. -/
theorem exists_segment_of_finish {bad : BadEdit}
    (refused : ((empty source language).recordAll offers).finish = .error bad) :
    ∃ s ∈ segmentsOf source offers, bad = ⟨s.start, s.stop⟩ := by
  rw [finish, edits_recordAll_empty] at refused
  cases spliced : splice ((empty source language).recordAll offers).source
      ((segmentsOf source offers).map Segment.edit) with
  | ok code =>
      rw [spliced] at refused
      contradiction
  | error first =>
      rw [spliced] at refused
      rcases exists_edit_of_splice spliced with ⟨edit, member, rfl⟩
      rcases List.mem_map.mp member with ⟨s, segmentMem, rfl⟩
      exact ⟨s, segmentMem, (Except.error.inj refused).symm⟩

/-- Offers whose ranges have characters and do not meet, where they are recorded, are finished
alike in any order. -/
theorem finish_of_perm (perm : offers.Perm others)
    (nonempty : ∀ s ∈ segmentsOf source offers, s.start < s.stop)
    (apart : (segmentsOf source offers).Pairwise Segment.Apart) :
    ((empty source language).recordAll others).finish =
      ((empty source language).recordAll offers).finish := by
  have segments : (segmentsOf source offers).Perm (segmentsOf source others) :=
    perm.filterMap (Offer.segment? source)
  have single : ((segmentsOf source offers).map Segment.edit).Pairwise
      fun a b => ¬ a.InsertTogether b := by
    rw [List.pairwise_map]
    apply apart.imp_of_mem
    intro a _ aMem _ _ together
    exact absurd together.1 (Int.ne_of_lt (nonempty a aMem))
  have first := (inStep_empty source language).recordAll offers
  have second := (inStep_empty source language).recordAll others
  have strings : ((empty source language).recordAll others).stringReplacements =
      ((empty source language).recordAll offers).stringReplacements := by
    rw [second.strings, first.strings, segments_recordAll_empty, segments_recordAll_empty,
      segments.countP_eq]
  have comments : ((empty source language).recordAll others).commentReplacements =
      ((empty source language).recordAll offers).commentReplacements := by
    rw [second.comments, first.comments, segments_recordAll_empty, segments_recordAll_empty,
      segments.countP_eq]
  have inOrder := inSourceOrder_of_perm segments nonempty apart
  rw [inSourceOrder, inSourceOrder] at inOrder
  rw [finish, finish, edits_recordAll_empty, edits_recordAll_empty, source_recordAll,
    source_recordAll, splice_of_perm (segments.map Segment.edit) single, strings, comments,
    segments_recordAll_empty, segments_recordAll_empty, inOrder, language_recordAll,
    language_recordAll]

/-- After any run the edits and the segments are those of the recorded offers, and the counts add
up to their number. An offer is dropped exactly if it changes nothing. The draft can be finished
exactly if all ranges lie in the source and no two overlap, and is refused for one of them
otherwise. If the ranges have characters and do not overlap, it is finished alike after a run with
the same offers in any order. -/
theorem run_keepsInStep (source language : List Char) (calls : List Call) :
    let draft := (empty source language).after calls
    let segments := segmentsOf source (offersOf calls)
    draft.segments = segments ∧ draft.edits = segments.map Segment.edit
      ∧ draft.stringReplacements + draft.commentReplacements = segments.length
      ∧ (∀ call, Step draft call (draft.answer call) (draft.next call))
      ∧ (∀ offer, draft.answer (.replace offer) = .replaced false ↔
        slice source offer.start offer.stop = offer.text)
      ∧ ((∃ result, draft.answer .finish = .finished (.ok result)) ↔ Spread source segments)
      ∧ (¬ Spread source segments →
        ∃ s ∈ segments, draft.answer .finish = .finished (.error ⟨s.start, s.stop⟩))
      ∧ ((∀ s ∈ segments, s.start < s.stop) → segments.Pairwise Segment.Apart →
        ∀ others, (offersOf calls).Perm (offersOf others) →
          ((empty source language).after others).answer .finish = draft.answer .finish) := by
  intro draft segments
  have isDraft : draft = (empty source language).recordAll (offersOf calls) :=
    after_eq_recordAll _ calls
  have inStep : draft.InStep := by
    rw [isDraft]
    exact (inStep_empty source language).recordAll (offersOf calls)
  have isSegments : draft.segments = segments := by
    rw [isDraft]
    exact segments_recordAll_empty source language (offersOf calls)
  have isSource : draft.source = source := by
    rw [isDraft, source_recordAll]
    rfl
  have finishes : (∃ result, draft.finish = .ok result) ↔ Spread source segments := by
    rw [exists_finish_iff, isSource, inStep.edits, isSegments]
    exact fit_iff_spread
  refine ⟨isSegments, by rw [inStep.edits, isSegments], by rw [inStep.count_eq, isSegments],
    step_next draft, ?_, ?_, ?_, ?_⟩
  · intro offer
    rw [answer, Answer.replaced.injEq, wouldChange_eq_false_iff, isSource]
  · simpa only [answer, Answer.finished.injEq] using finishes
  · intro misfit
    cases finished : draft.finish with
    | ok result => exact absurd (finishes.mp ⟨result, finished⟩) misfit
    | error bad =>
        rw [isDraft] at finished
        rcases exists_segment_of_finish finished with ⟨s, member, rfl⟩
        rw [← isDraft] at finished
        exact ⟨s, member, congrArg Answer.finished finished⟩
  · intro nonempty apart others perm
    rw [answer, answer, isDraft, after_eq_recordAll, finish_of_perm perm nonempty apart]

end Runs

/-- Ranges that touch can be recorded from right to left, with an offer between them that changes
nothing. Ranges that overlap are refused. -/
theorem run_keepsInStep_touching :
    let source := "abcdef".toList
    let calls : List Call := [.replace ⟨.comment, 3, 5, "X".toList⟩, .finish,
      .replace ⟨.text, 1, 2, "b".toList⟩, .replace ⟨.string, 0, 3, "-".toList⟩]
    let overlapping : List Call :=
      [.replace ⟨.string, 1, 3, "Y".toList⟩, .replace ⟨.text, 0, 2, "Z".toList⟩]
    let segments := segmentsOf source (offersOf calls)
    let draft := (empty source "js".toList).after calls
    segments.length = 2 ∧ (∀ s ∈ segments, s.start < s.stop) ∧ segments.Pairwise Segment.Apart
      ∧ (offersOf calls).Perm (offersOf calls.reverse)
      ∧ (∃ result, draft.answer .finish = .finished (.ok result))
      ∧ ((empty source "js".toList).after calls.reverse).answer .finish = draft.answer .finish
      ∧ ¬ Spread source (segmentsOf source (offersOf overlapping))
      ∧ ∃ s ∈ segmentsOf source (offersOf overlapping),
        ((empty source "js".toList).after overlapping).answer .finish =
          .finished (.error ⟨s.start, s.stop⟩) := by
  intro source calls overlapping segments draft
  have isSegments : segments = [⟨.comment, "de".toList, "X".toList, 3, 5⟩,
      ⟨.string, "abc".toList, "-".toList, 0, 3⟩] := by
    decide
  have nonempty : ∀ s ∈ segments, s.start < s.stop := by
    rw [isSegments]
    decide
  have apart : segments.Pairwise Segment.Apart := by
    rw [isSegments]
    exact List.pairwise_pair.mpr (.inr (by decide))
  have spread : Spread source segments := by
    constructor
    · rw [isSegments]
      decide
    · exact apart
  have perm : (offersOf calls).Perm (offersOf calls.reverse) :=
    calls.reverse_perm.symm.filterMap Call.offer?
  have misfit : ¬ Spread source (segmentsOf source (offersOf overlapping)) := by
    intro overlaps
    have isOverlapping : segmentsOf source (offersOf overlapping) =
        [⟨.string, "bc".toList, "Y".toList, 1, 3⟩, ⟨.text, "ab".toList, "Z".toList, 0, 2⟩] := by
      decide
    have meets := overlaps.apart
    rw [isOverlapping, List.pairwise_pair] at meets
    rcases meets with before | behind
    · contradiction
    · contradiction
  obtain ⟨_, _, _, _, _, finishes, _, alike⟩ := run_keepsInStep source "js".toList calls
  obtain ⟨_, _, _, _, _, _, refuses, _⟩ := run_keepsInStep source "js".toList overlapping
  exact ⟨by rw [isSegments]; rfl, nonempty, apart, perm, finishes.mpr spread,
    alike nonempty apart calls.reverse perm, misfit, refuses misfit⟩

end Draft

end CodeGloss.Gloss
