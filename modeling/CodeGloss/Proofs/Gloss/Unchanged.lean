import CodeGloss.Gloss.Whole
import CodeGloss.Proofs.Gloss.PassagePatch
import CodeGloss.Proofs.Gloss.ScannedPatch

/-!
# Sources that are left alone

A draft to which only replacements are offered that change nothing stays as it is.
So a source whose contents, or whose passages, are all their own translations is
returned as it came, without a segment.
-/

namespace CodeGloss.Gloss

open Glossary Scan Syntax Text

namespace Draft

theorem record_of_same {draft : Draft} (kind : Segment.Kind) {start stop : Nat}
    {replacement : List Char} (same : slice draft.source start stop = replacement) :
    draft.record kind start stop replacement = draft := by
  rw [record, wouldChange, same, bne_self_eq_false, if_neg Bool.false_ne_true]

/-- Offers that make no segment leave a draft as it is. -/
theorem recordAll_of_forall_none {draft : Draft} {offers : List Offer}
    (noSegment : ∀ offer ∈ offers, offer.segment? draft.source = none) :
    draft.recordAll offers = draft := by
  induction offers with
  | nil => rfl
  | cons offer offers ih =>
      rcases List.forall_mem_cons.mp noSegment with ⟨first, later⟩
      rw [Offer.segment?, ite_eq_left_iff] at first
      have same : slice draft.source offer.start offer.stop = offer.text := by
        by_contra differs
        exact nomatch first differs
      rw [recordAll_cons, record_of_same offer.kind same, ih later]

@[simp]
theorem finish_empty (source language : List Char) :
    (empty source language).finish = .ok (.unchanged language source) := by
  simp [finish, empty, Except.map, GlossedCode.unchanged]

end Draft

section Unchanged

variable {entries : List Entry} {source : List Char}

/-- If every content of a scan is its own translation, the source is returned as it came. -/
theorem glossScanned_of_unchanged {profile : Profile} (language : List Char)
    (kept : ∀ span ∈ scan profile source,
      ∀ content ∈ span.content? profile.commentMarker source,
        translateEscaped entries (spanEscape span) content = content) :
    glossScanned profile source entries language = .ok (.unchanged language source) := by
  have noSegment : (scan profile source).filterMap
      (spanSegment? profile.commentMarker entries source) = [] := by
    rw [List.filterMap_eq_nil_iff]
    intro span member
    cases isContent : span.content? profile.commentMarker source with
    | none =>
        rw [spanSegment?, isContent]
        rfl
    | some content =>
        rw [spanSegment?_of_content isContent, if_pos (kept span member content isContent)]
  rw [glossScanned, foldl_glossSpan]
  change (Draft.recordAll _ (List.map _
    ((scan profile source).filterMap (spanSegment? profile.commentMarker entries source)))).finish =
      _
  rw [noSegment, List.map_nil, Draft.recordAll_nil, Draft.finish_empty]

/-- If no passage makes a segment, the source is returned as it came. -/
theorem glossPassages_of_unchanged {passages : List Passage} (language : List Char)
    (lie : ∀ p ∈ passages, LiesIn source p)
    (kept : ∀ p ∈ passages, passageSegment? entries source p = none) :
    glossPassages source passages entries language = .ok (.unchanged language source) := by
  have perm := commentsLast_perm passages
  have noSegment : ∀ offer ∈ (commentsLast passages).filterMap (passageOffer? entries source),
      offer.segment? source = none := by
    intro offer member
    rcases List.mem_filterMap.mp member with ⟨p, pMem, isOffer⟩
    have none := kept p (perm.mem_iff.mp pMem)
    rwa [passageSegment?, isOffer] at none
  have placed : ∀ p ∈ commentsLast passages, IsPlaced source p :=
    fun p member => (lie p (perm.mem_iff.mp member)).isPlaced
  rw [glossPassages, foldlM_glossPassage placed _ rfl,
    Draft.recordAll_of_forall_none noSegment]
  exact congrArg (Except.mapError PassageError.badEdit) (Draft.finish_empty source language)

end Unchanged

/-- A text that is its own translation is returned as it came. -/
theorem glossWhole_of_unchanged {entries : List Entry} {source : List Char} (language : List Char)
    (kept : translate entries source = source) :
    glossWhole source entries language =
      ⟨language, source, true, [], 0, 0⟩ := by
  rw [glossWhole, kept, if_pos rfl]

end CodeGloss.Gloss
