import CodeGloss.Gloss.Draft
import CodeGloss.Proofs.Gloss.Patch

/-!
# What a draft records

A draft is offered replacements one after the other and keeps those that change
their range. Its edits, segments and counts stay in step, whatever is offered.
If the ranges that are kept have characters and do not meet, in whatever order
they were offered, the draft can be finished and its segments are an exact patch.
-/

namespace CodeGloss.Gloss

open Text Segment

/-- A replacement that is offered to a draft. -/
structure Offer where
  kind : Segment.Kind
  start : Nat
  stop : Nat
  text : List Char

/-- The segment that comes of an offer, unless the offer changes nothing. -/
def Offer.segment? (source : List Char) (offer : Offer) : Option Segment :=
  if slice source offer.start offer.stop = offer.text then none
  else
    some ⟨offer.kind, slice source offer.start offer.stop, offer.text, offer.start, offer.stop⟩

theorem Offer.segment?_eq_some_iff {source : List Char} {offer : Offer} {s : Segment} :
    offer.segment? source = some s ↔
      s = ⟨offer.kind, slice source offer.start offer.stop, offer.text, offer.start, offer.stop⟩
        ∧ slice source offer.start offer.stop ≠ offer.text := by
  unfold Offer.segment?
  split
  · rename_i same
    simp [same]
  · rename_i differs
    rw [Option.some.injEq]
    exact ⟨fun isSegment => ⟨isSegment.symm, differs⟩, fun both => both.1.symm⟩

namespace Draft

/-- The draft after some offers. -/
def recordAll (draft : Draft) (offers : List Offer) : Draft :=
  offers.foldl (fun draft offer => draft.record offer.kind offer.start offer.stop offer.text) draft

@[simp]
theorem recordAll_nil (draft : Draft) : draft.recordAll [] = draft :=
  rfl

@[simp]
theorem recordAll_cons (draft : Draft) (offer : Offer) (offers : List Offer) :
    draft.recordAll (offer :: offers) =
      (draft.record offer.kind offer.start offer.stop offer.text).recordAll offers :=
  rfl

theorem recordAll_append (draft : Draft) (first second : List Offer) :
    draft.recordAll (first ++ second) = (draft.recordAll first).recordAll second :=
  List.foldl_append

/-- The edits of a draft are those of its segments, and the counts are the numbers
of its segments. -/
structure InStep (draft : Draft) : Prop where
  edits : draft.edits = draft.segments.map edit
  strings : draft.stringReplacements = draft.segments.countP (·.kind != .comment)
  comments : draft.commentReplacements = draft.segments.countP (·.kind == .comment)

theorem inStep_empty (source language : List Char) : (empty source language).InStep :=
  ⟨rfl, rfl, rfl⟩

theorem InStep.record {draft : Draft} (inStep : draft.InStep) (kind : Segment.Kind)
    (start stop : Nat) (replacement : List Char) :
    (draft.record kind start stop replacement).InStep := by
  unfold Draft.record
  split
  · constructor
    · simp [inStep.edits, edit]
    · cases kind <;> simp [inStep.strings]
    · cases kind <;> simp [inStep.comments]
  · exact inStep

theorem InStep.recordAll {draft : Draft} (inStep : draft.InStep) (offers : List Offer) :
    (draft.recordAll offers).InStep := by
  induction offers generalizing draft with
  | nil => exact inStep
  | cons offer offers ih => exact ih (inStep.record _ _ _ _)

theorem segments_record (draft : Draft) (offer : Offer) :
    (draft.record offer.kind offer.start offer.stop offer.text).segments =
      draft.segments ++ (offer.segment? draft.source).toList := by
  unfold record Offer.segment? wouldChange
  by_cases same : slice draft.source offer.start offer.stop = offer.text <;> simp [same]

@[simp]
theorem source_recordAll (draft : Draft) (offers : List Offer) :
    (draft.recordAll offers).source = draft.source := by
  induction offers generalizing draft with
  | nil => rfl
  | cons offer offers ih => rw [recordAll_cons, ih, source_record]

/-- The segments of a draft are those of the offers, in the order of the offers. -/
theorem segments_recordAll (draft : Draft) (offers : List Offer) :
    (draft.recordAll offers).segments =
      draft.segments ++ offers.filterMap (Offer.segment? draft.source) := by
  induction offers generalizing draft with
  | nil => simp
  | cons offer offers ih =>
      rw [recordAll_cons, ih, segments_record, source_record, List.append_assoc]
      cases isSegment : offer.segment? draft.source <;> simp [isSegment]

end Draft

/-! ## Segments that do not meet -/

/-- One of two segments ends before the other starts. -/
def Segment.Apart (a b : Segment) : Prop :=
  a.stop ≤ b.start ∨ b.stop ≤ a.start

theorem Segment.Apart.symm {a b : Segment} (apart : a.Apart b) : b.Apart a :=
  Or.symm apart

/-- Segments in the order of their starts. -/
def inSourceOrder (segments : List Segment) : List Segment :=
  segments.mergeSort fun a b => a.start ≤ b.start

theorem inSourceOrder_perm (segments : List Segment) :
    (inSourceOrder segments).Perm segments :=
  List.mergeSort_perm _ _

theorem mem_inSourceOrder {segments : List Segment} {s : Segment} :
    s ∈ inSourceOrder segments ↔ s ∈ segments :=
  (inSourceOrder_perm segments).mem_iff

/-- Segments that stand in order are left where they are. -/
theorem inSourceOrder_of_ordered {segments : List Segment}
    (forward : ∀ s ∈ segments, s.start ≤ s.stop)
    (ordered : segments.Pairwise fun a b => a.stop ≤ b.start) :
    inSourceOrder segments = segments := by
  apply List.mergeSort_of_pairwise
  refine ordered.imp_of_mem fun {a b} aMem _ apart => ?_
  have aForward := forward a aMem
  simp only [decide_eq_true_eq]
  omega

theorem ordered_inSourceOrder {segments : List Segment}
    (nonempty : ∀ s ∈ segments, s.start < s.stop) (apart : segments.Pairwise Apart) :
    (inSourceOrder segments).Pairwise fun a b => a.stop ≤ b.start := by
  have byStart : (inSourceOrder segments).Pairwise fun a b => decide (a.start ≤ b.start) = true :=
    List.pairwise_mergeSort
      (fun a b c first second => by
        simp only [decide_eq_true_eq] at first second ⊢
        omega)
      (fun a b => by
        simp only [Bool.or_eq_true, decide_eq_true_eq]
        omega) segments
  have stillApart := apart.perm (inSourceOrder_perm segments).symm Apart.symm
  refine (byStart.and stillApart).imp_of_mem fun {a b} _ bMem both => ?_
  have bNonempty := nonempty b (mem_inSourceOrder.mp bMem)
  rcases both with ⟨starts, aFirst | bFirst⟩
  · exact aFirst
  · rw [decide_eq_true_eq] at starts
    omega

/-- Segments with characters that follow each other stand in one order. -/
theorem eq_of_perm_of_ordered {segments others : List Segment} (perm : segments.Perm others)
    (nonempty : ∀ s ∈ segments, s.start < s.stop)
    (ordered : segments.Pairwise fun a b => a.stop ≤ b.start)
    (othersOrdered : others.Pairwise fun a b => a.stop ≤ b.start) : segments = others := by
  apply perm.eq_of_pairwise _ ordered othersOrdered
  intro a b aMem bMem first second
  have aNonempty := nonempty a aMem
  have bNonempty := nonempty b (perm.mem_iff.mpr bMem)
  omega

/-- Segments that do not meet come in one order, however they are listed. -/
theorem inSourceOrder_of_perm {segments others : List Segment} (perm : segments.Perm others)
    (nonempty : ∀ s ∈ segments, s.start < s.stop) (apart : segments.Pairwise Apart) :
    inSourceOrder segments = inSourceOrder others := by
  have sorted : (inSourceOrder segments).Perm (inSourceOrder others) :=
    ((inSourceOrder_perm segments).trans perm).trans (inSourceOrder_perm others).symm
  apply eq_of_perm_of_ordered sorted
  · exact fun s member => nonempty s (mem_inSourceOrder.mp member)
  · exact ordered_inSourceOrder nonempty apart
  · exact ordered_inSourceOrder (fun s member => nonempty s (perm.mem_iff.mpr member))
      (apart.perm perm Apart.symm)

theorem Edit.precedes_iff {a b : Edit} :
    a.precedes b = true ↔ a.start < b.start ∨ a.start = b.start ∧ a.stop ≤ b.stop := by
  simp only [precedes, Bool.or_eq_true, Bool.and_eq_true, decide_eq_true_eq, beq_iff_eq]

/-- Edits are spliced in the order in which the segments are listed. -/
theorem mergeSort_edits {segments : List Segment} (nonempty : ∀ s ∈ segments, s.start < s.stop)
    (apart : segments.Pairwise Apart) :
    (segments.map edit).mergeSort Edit.precedes = (inSourceOrder segments).map edit := by
  have meet : ∀ a ∈ segments, ∀ b ∈ segments, a = b ∨ a.Apart b :=
    fun a aMem b bMem =>
      List.Pairwise.forall_of_forall_of_flip (R := fun a b => a = b ∨ a.Apart b)
        (fun _ _ => .inl rfl) (apart.imp .inr) (apart.imp fun ab => .inr ab.symm) aMem bMem
  rw [inSourceOrder]
  symm
  apply List.map_mergeSort
  intro a aMem b bMem
  have aNonempty := nonempty a aMem
  have bNonempty := nonempty b bMem
  rw [Bool.eq_iff_iff, decide_eq_true_eq, Edit.precedes_iff]
  simp only [edit]
  rcases meet a aMem b bMem with rfl | aFirst | bFirst <;> omega

/-! ## Finished drafts -/

theorem Draft.InStep.finish {draft : Draft} (inStep : draft.InStep) {code : List Char}
    (nonempty : ∀ s ∈ draft.segments, s.start < s.stop) (apart : draft.segments.Pairwise Apart)
    (weave : Weave 0 (inSourceOrder draft.segments) draft.source code) :
    draft.finish = .ok
      ⟨draft.language, code, false, inSourceOrder draft.segments, draft.stringReplacements,
        draft.commentReplacements⟩ := by
  have spliced : spliceFrom 0 draft.source ((inSourceOrder draft.segments).map edit) = .ok code :=
    weave.spliceFrom_edit
  rw [Draft.finish, splice, inStep.edits, mergeSort_edits nonempty apart, spliced]
  rfl

/-- Finished code lists the segments of the draft in source order. -/
theorem Draft.segments_of_finish {draft : Draft} {result : GlossedCode}
    (finished : draft.finish = .ok result) : result.segments = inSourceOrder draft.segments := by
  rw [Draft.finish] at finished
  cases spliced : splice draft.source draft.edits with
  | error bad =>
      rw [spliced] at finished
      contradiction
  | ok code =>
      rw [spliced] at finished
      rw [← Except.ok.inj finished]
      rfl

/-- Without plain text, every segment that is no comment is a string. -/
theorem Draft.InStep.strings_eq {draft : Draft} (inStep : draft.InStep)
    (kinds : ∀ s ∈ draft.segments, s.kind ≠ .text) :
    draft.stringReplacements = draft.segments.countP (·.kind == .string) := by
  rw [inStep.strings]
  apply List.countP_congr
  intro s member
  have kind := kinds s member
  cases isKind : s.kind
  · simp
  · simp
  · exact absurd isKind kind

/-- Offers whose ranges have characters and do not meet, where they change something,
make an exact patch. -/
theorem exists_finish_recordAll {source : List Char} (language : List Char) {offers : List Offer}
    (kinds : ∀ offer ∈ offers, offer.kind ≠ .text)
    (inside : ∀ s ∈ offers.filterMap (Offer.segment? source),
      s.start < s.stop ∧ s.stop ≤ source.length)
    (apart : (offers.filterMap (Offer.segment? source)).Pairwise Apart) :
    ∃ result, ((Draft.empty source language).recordAll offers).finish = .ok result
      ∧ result.segments = inSourceOrder (offers.filterMap (Offer.segment? source))
      ∧ Weave 0 result.segments source result.code ∧ IsExactPatch source result := by
  have inStep := (Draft.inStep_empty source language).recordAll offers
  have isSegments : ((Draft.empty source language).recordAll offers).segments =
      offers.filterMap (Offer.segment? source) := Draft.segments_recordAll _ _
  have offered : ∀ s ∈ offers.filterMap (Offer.segment? source),
      ∃ offer ∈ offers, s = ⟨offer.kind, slice source offer.start offer.stop, offer.text,
        offer.start, offer.stop⟩ ∧ slice source offer.start offer.stop ≠ offer.text := by
    intro s member
    rcases List.mem_filterMap.mp member with ⟨offer, offerMem, isSegment⟩
    exact ⟨offer, offerMem, Offer.segment?_eq_some_iff.mp isSegment⟩
  have nonempty := fun s member => (inside s member).1
  obtain ⟨code, weave⟩ := exists_weave source 0
    (ordered_inSourceOrder nonempty apart)
    (fun s member => by
      rcases offered s (mem_inSourceOrder.mp member) with ⟨offer, _, rfl, _⟩
      exact Int.natCast_nonneg _)
    (fun s member => by
      have place := inside s (mem_inSourceOrder.mp member)
      rcases offered s (mem_inSourceOrder.mp member) with ⟨offer, _, rfl, _⟩
      exact ⟨Int.natCast_nonneg _, Int.le_of_lt place.1, place.2, rfl⟩)
  have strings := inStep.strings_eq fun s member => by
    rw [isSegments] at member
    rcases offered s member with ⟨offer, offerMem, rfl, _⟩
    exact kinds offer offerMem
  have comments := inStep.comments
  rw [List.drop_zero] at weave
  rw [isSegments, ← (inSourceOrder_perm _).countP_eq] at strings comments
  have finished := inStep.finish (by rwa [isSegments]) (by rwa [isSegments])
    (show Weave 0 _ _ code by rwa [isSegments, Draft.source_recordAll])
  rw [isSegments] at finished
  refine ⟨_, finished, rfl, weave, IsExactPatch.of_weave weave ?_ ?_ ?_ ?_⟩
  · intro s member empty
    have place := weave.bounds member
    have positive := nonempty s (mem_inSourceOrder.mp member)
    rw [empty, List.length_nil] at place
    omega
  · intro s member
    rcases offered s (mem_inSourceOrder.mp member) with ⟨offer, _, rfl, differs⟩
    exact differs
  · exact congrArg Nat.cast strings
  · exact congrArg Nat.cast comments

end CodeGloss.Gloss
