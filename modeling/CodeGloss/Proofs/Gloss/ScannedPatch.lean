import CodeGloss.Gloss.Scanned
import CodeGloss.Proofs.Gloss.Recording
import CodeGloss.Proofs.Scan.Spans

/-!
# The patch of a scanned source

Glossing a scanned source replaces each comment and each terminated string whose
content is translated to something else. The spans of a scan do not meet, so no
replacement is refused, and the segments are those of the spans.
-/

namespace CodeGloss.Gloss

open Glossary Scan Text

/-- The escape for text inside a span. -/
def spanEscape : Span → List Char → List Char
  | .comment _ _ => id
  | .string literal => literalEscape literal

def spanKind : Span → Segment.Kind
  | .comment _ _ => .comment
  | .string _ => .string

/-- The segment of a span whose content is translated to something else: the marker,
or the letters and delimiters of the span, stand around both contents. -/
def spanSegment? (marker : List Char) (entries : List Entry) (source : List Char)
    (span : Span) : Option Segment :=
  (span.content? marker source).bind fun content =>
    let translated := translateEscaped entries (spanEscape span) content
    if translated = content then none
    else
      some ⟨spanKind span, span.around marker content, span.around marker translated,
        span.start, span.stop⟩

/-- The offer that makes a segment. -/
def Segment.offer (s : Segment) : Offer :=
  ⟨s.kind, s.start.toNat, s.stop.toNat, s.translated⟩

theorem around_injective (marker : List Char) (span : Span) :
    Function.Injective fun content => span.around marker content := by
  intro content other same
  cases span with
  | comment start stop => exact List.append_cancel_left same
  | string literal => exact List.append_cancel_left (List.append_cancel_right same)

section Spans

variable {marker source : List Char} {entries : List Entry} {span : Span} {s : Segment}

theorem spanSegment?_eq_some_iff :
    spanSegment? marker entries source span = some s ↔
      ∃ content ∈ span.content? marker source,
        translateEscaped entries (spanEscape span) content ≠ content
          ∧ s = ⟨spanKind span, span.around marker content,
              span.around marker (translateEscaped entries (spanEscape span) content),
              span.start, span.stop⟩ := by
  simp only [spanSegment?, Option.bind_eq_some_iff, Option.ite_none_left_eq_some,
    Option.some.injEq, Option.mem_def, eq_comm (a := s), ne_eq]

theorem spanSegment?_range (isSegment : spanSegment? marker entries source span = some s) :
    s.start = span.start ∧ s.stop = span.stop := by
  rcases spanSegment?_eq_some_iff.mp isSegment with ⟨content, _, _, rfl⟩
  exact ⟨rfl, rfl⟩

theorem spanSegment?_kind (isSegment : spanSegment? marker entries source span = some s) :
    s.kind ≠ .text := by
  rcases spanSegment?_eq_some_iff.mp isSegment with ⟨content, _, _, rfl⟩
  cases span <;> nofun

/-- Where a span shows what it says, its segment is the one that its offer makes. -/
theorem segment?_offer (shows : span.ShowsIn marker source)
    (isSegment : spanSegment? marker entries source span = some s) :
    s.offer.segment? source = some s := by
  rcases spanSegment?_eq_some_iff.mp isSegment with ⟨content, isContent, differs, rfl⟩
  rw [Offer.segment?_eq_some_iff]
  simp only [Segment.offer, Int.toNat_natCast, shows content isContent, true_and]
  intro same
  exact differs (around_injective marker span same).symm

theorem spanSegment?_of_content {content : List Char}
    (isContent : span.content? marker source = some content) :
    spanSegment? marker entries source span =
      if translateEscaped entries (spanEscape span) content = content then none
      else
        some ⟨spanKind span, span.around marker content,
          span.around marker (translateEscaped entries (spanEscape span) content),
          span.start, span.stop⟩ := by
  rw [spanSegment?, isContent]
  rfl

theorem glossSpan_eq_recordAll (profile : Profile) (entries : List Entry) (draft : Draft)
    (span : Span) :
    glossSpan profile entries draft span =
      draft.recordAll ((spanSegment? profile.commentMarker entries draft.source span).map
        Segment.offer).toList := by
  cases span with
  | comment start stop =>
      have isContent : Span.content? profile.commentMarker draft.source (.comment start stop) =
          some (slice draft.source (start + profile.commentMarker.length) stop) := rfl
      rw [spanSegment?_of_content isContent]
      split
      · rename_i same
        exact if_pos same
      · rename_i differs
        exact if_neg differs
  | string literal =>
      cases terminated : literal.terminated with
      | false =>
          have noContent :
              Span.content? profile.commentMarker draft.source (.string literal) = none := by
            rw [Span.content?, terminated]
            rfl
          rw [spanSegment?, noContent, glossSpan, terminated]
          rfl
      | true =>
          have isContent : Span.content? profile.commentMarker draft.source (.string literal) =
              some (slice draft.source literal.contentStart literal.contentStop) := by
            rw [Span.content?, terminated]
            rfl
          rw [spanSegment?_of_content isContent, glossSpan, terminated, if_pos rfl]
          split
          · rename_i same
            exact if_pos same
          · rename_i differs
            exact if_neg differs

end Spans

theorem foldl_glossSpan (profile : Profile) (entries : List Entry) (draft : Draft)
    (spans : List Span) :
    spans.foldl (glossSpan profile entries) draft =
      draft.recordAll
        ((spans.filterMap (spanSegment? profile.commentMarker entries draft.source)).map
          Segment.offer) := by
  induction spans generalizing draft with
  | nil => rfl
  | cons span spans ih =>
      rw [List.foldl_cons, ih, glossSpan_eq_recordAll, Draft.source_recordAll,
        ← Draft.recordAll_append]
      cases isSegment : spanSegment? profile.commentMarker entries draft.source span <;>
        simp [isSegment]

/-! ## Scanned sources -/

section Sources

variable {profile : Profile}

/-- The segments of the spans of a source. -/
def spanSegments (profile : Profile) (entries : List Entry) (source : List Char) : List Segment :=
  (scan profile source).filterMap (spanSegment? profile.commentMarker entries source)

variable {entries : List Entry} {source : List Char}

theorem exists_span_of_mem_spanSegments {s : Segment}
    (member : s ∈ spanSegments profile entries source) :
    ∃ span ∈ scan profile source,
      spanSegment? profile.commentMarker entries source span = some s :=
  List.mem_filterMap.mp member

theorem filterMap_eq_self {α : Type} {f : α → Option α} {items : List α}
    (kept : ∀ item ∈ items, f item = some item) : items.filterMap f = items := by
  induction items with
  | nil => rfl
  | cons item items ih =>
      rcases List.forall_mem_cons.mp kept with ⟨first, rest⟩
      rw [List.filterMap_cons_some first, ih rest]

theorem segment?_offer_spanSegments (separate : profile.Separate) (entries : List Entry)
    (source : List Char) :
    ((spanSegments profile entries source).map Segment.offer).filterMap (Offer.segment? source) =
      spanSegments profile entries source := by
  rw [List.filterMap_map]
  apply filterMap_eq_self
  intro s member
  rcases exists_span_of_mem_spanSegments member with ⟨span, spanMem, isSegment⟩
  exact segment?_offer (showsIn_of_mem_scan separate spanMem) isSegment

theorem ordered_spanSegments (separate : profile.Separate) (entries : List Entry)
    (source : List Char) :
    (spanSegments profile entries source).Pairwise fun a b => a.stop ≤ b.start := by
  rw [spanSegments, List.pairwise_filterMap]
  refine (pairwise_scan separate source).imp ?_
  intro first second apart a isFirst b isSecond
  have aRange := spanSegment?_range isFirst
  have bRange := spanSegment?_range isSecond
  omega

theorem bounds_of_mem_spanSegments (separate : profile.Separate) {s : Segment}
    (member : s ∈ spanSegments profile entries source) :
    s.start < s.stop ∧ s.stop ≤ source.length := by
  rcases exists_span_of_mem_spanSegments member with ⟨span, spanMem, isSegment⟩
  have range := spanSegment?_range isSegment
  have bounds := bounds_of_mem_scan separate spanMem
  omega

/-- Nothing that a scan finds is refused, and the segments are those of the spans. -/
theorem exists_glossScanned (separate : profile.Separate) (source : List Char)
    (entries : List Entry) (language : List Char) :
    ∃ result, glossScanned profile source entries language = .ok result
      ∧ result.segments = spanSegments profile entries source
      ∧ Weave 0 result.segments source result.code ∧ IsExactPatch source result := by
  have isSegments := segment?_offer_spanSegments separate entries source
  have ordered := ordered_spanSegments separate entries source
  have bounds : ∀ s ∈ spanSegments profile entries source,
      s.start < s.stop ∧ s.stop ≤ source.length :=
    fun _ member => bounds_of_mem_spanSegments separate member
  have kinds : ∀ offer ∈ (spanSegments profile entries source).map Segment.offer,
      offer.kind ≠ .text := by
    intro offer member
    rcases List.mem_map.mp member with ⟨s, segmentMem, rfl⟩
    rcases exists_span_of_mem_spanSegments segmentMem with ⟨span, _, isSegment⟩
    exact spanSegment?_kind isSegment
  rcases exists_finish_recordAll language kinds (by rwa [isSegments])
    (by rw [isSegments]; exact ordered.imp .inl) with
    ⟨result, finished, segments, weave, isPatch⟩
  refine ⟨result, ?_, ?_, weave, isPatch⟩
  · rw [glossScanned, foldl_glossSpan]
    exact finished
  · rw [segments, isSegments]
    exact inSourceOrder_of_ordered (fun s member => Int.le_of_lt (bounds s member).1) ordered

end Sources

/-- Whatever the source and the entries, glossing a scanned source succeeds, and the
result is an exact patch of the source, with one segment for each comment and each
terminated string whose content is translated to something else. -/
theorem glossScanned_isExactPatch (source : List Char) (entries : List Entry)
    (language : List Char) :
    ∃ result, glossScanned {} source entries language = .ok result ∧ IsExactPatch source result
      ∧ result.segments = (scan {} source).filterMap (spanSegment? ['#'] entries source) := by
  rcases exists_glossScanned separate_default source entries language with
    ⟨result, finished, segments, _, isPatch⟩
  exact ⟨result, finished, isPatch, segments⟩

end CodeGloss.Gloss
