import CodeGloss.Gloss.Whole
import CodeGloss.Proofs.Gloss.PassagePatch
import CodeGloss.Proofs.Gloss.ScannedPatch

/-!
# Shapes of results

A source that is taken as plain text makes one segment at most, which counts nothing. Where
the structure of the source is known, every segment is that of a string or a comment, and is
counted. The draft, whatever it is offered, keeps its language.
-/

namespace CodeGloss.Gloss

open Glossary Scan Syntax Text

/-- The result for a source that was taken as plain text. -/
structure GlossedCode.IsWhole (source : List Char) (result : GlossedCode) : Prop where
  usedFallback : result.usedFallback = true
  strings : result.stringReplacements = 0
  comments : result.commentReplacements = 0
  segments : result.segments = []
    ∨ result.segments = [⟨.text, source, result.code, 0, source.length⟩]

/-- The result for a source of known structure. -/
structure GlossedCode.IsStructural (result : GlossedCode) : Prop where
  usedFallback : result.usedFallback = false
  kinds : ∀ s ∈ result.segments, s.kind ≠ .text
  counts : result.stringReplacements + result.commentReplacements = result.segments.length

section Shapes

variable {source language : List Char} {entries : List Entry} {result : GlossedCode}

theorem isWhole_glossWhole (source : List Char) (entries : List Entry) (language : List Char) :
    (glossWhole source entries language).IsWhole source := by
  refine ⟨rfl, rfl, rfl, ?_⟩
  by_cases same : translate entries source = source
  · left
    exact if_pos same
  · right
    exact if_neg same

theorem Draft.language_recordAll (draft : Draft) (offers : List Offer) :
    (draft.recordAll offers).language = draft.language := by
  induction offers generalizing draft with
  | nil => rfl
  | cons offer offers ih =>
      rw [recordAll_cons, ih, record]
      split
      · rfl
      · rfl

theorem Draft.exists_of_finish {draft : Draft} (finished : draft.finish = .ok result) :
    ∃ code, result = ⟨draft.language, code, false, inSourceOrder draft.segments,
      draft.stringReplacements, draft.commentReplacements⟩ := by
  rw [finish] at finished
  cases spliced : splice draft.source draft.edits with
  | error bad =>
      rw [spliced] at finished
      contradiction
  | ok code =>
      rw [spliced] at finished
      exact ⟨code, (Except.ok.inj finished).symm⟩

/-- In a draft every segment is counted once. -/
theorem Draft.InStep.count_eq {draft : Draft} (inStep : draft.InStep) :
    draft.stringReplacements + draft.commentReplacements = draft.segments.length := by
  rw [inStep.strings, inStep.comments, List.length_eq_countP_add_countP (·.kind != .comment)]
  congr 1
  apply List.countP_congr
  intro s _
  simp

/-- What is finished after offers for strings and comments is structural. -/
theorem isStructural_of_finish {offers : List Offer} (kinds : ∀ offer ∈ offers, offer.kind ≠ .text)
    (finished : ((Draft.empty source language).recordAll offers).finish = .ok result) :
    result.language = language ∧ result.IsStructural := by
  have inStep := (Draft.inStep_empty source language).recordAll offers
  obtain ⟨code, rfl⟩ := Draft.exists_of_finish finished
  refine ⟨Draft.language_recordAll _ offers, rfl, ?_, ?_⟩
  · intro s member
    have offered : s ∈ offers.filterMap (Offer.segment? source) := by
      have inDraft := mem_inSourceOrder.mp member
      rwa [Draft.segments_recordAll] at inDraft
    rcases List.mem_filterMap.mp offered with ⟨offer, offerMem, made⟩
    rw [(Offer.segment?_eq_some_iff.mp made).1]
    exact kinds offer offerMem
  · rw [(inSourceOrder_perm _).length_eq]
    exact congrArg Nat.cast inStep.count_eq

theorem isStructural_of_glossPassages {passages : List Passage}
    (glossed : glossPassages source passages entries language = .ok result) :
    result.language = language ∧ result.IsStructural := by
  apply isStructural_of_finish _ (finish_of_glossPassages glossed)
  intro offer member
  rcases List.mem_filterMap.mp member with ⟨p, _, isOffer⟩
  exact kind_of_mem_passageOffer? isOffer

theorem isStructural_of_glossScanned {profile : Profile}
    (glossed : glossScanned profile source entries language = .ok result) :
    result.language = language ∧ result.IsStructural := by
  rw [glossScanned, foldl_glossSpan] at glossed
  apply isStructural_of_finish _ glossed
  intro offer member
  rcases List.mem_map.mp member with ⟨s, segmentMem, rfl⟩
  rcases List.mem_filterMap.mp segmentMem with ⟨span, _, isSegment⟩
  exact spanSegment?_kind isSegment

end Shapes

end CodeGloss.Gloss
