import CodeGloss.Proofs.Gloss.Shapes
import CodeGloss.Proofs.Scan.Seam
import Mathlib.Data.List.Basic

/-!
# Glossing two texts as one

A text that ends with its line and leaves no literal open can be glossed apart from what
stands behind it. The scan of both texts finds the spans of each, those of the second one
further on, and a span has the same content in the whole as in its part. So the segments of
both parts lie one behind the other, and what they make of the whole is what they make of
the parts.
-/

namespace CodeGloss.Gloss

open Glossary Scan Text

/-- The segment where it stands with `shift` more characters before it. -/
def Segment.moved (shift : Nat) (s : Segment) : Segment :=
  { s with start := s.start + shift, stop := s.stop + shift }

@[simp]
theorem Segment.moved_zero : Segment.moved 0 = id := by
  funext s
  simp [moved]

/-- The results of a text of some length and of the text behind it, as one. -/
def GlossedCode.followedBy (length : Nat) (first second : GlossedCode) : GlossedCode where
  language := first.language
  code := first.code ++ second.code
  usedFallback := first.usedFallback || second.usedFallback
  segments := first.segments ++ second.segments.map (Segment.moved length)
  stringReplacements := first.stringReplacements + second.stringReplacements
  commentReplacements := first.commentReplacements + second.commentReplacements

/-- Segments are of a kind wherever they stand. -/
theorem countP_kind_append (kind : Segment.Kind) (first second : List Segment) (shift : Nat) :
    (first ++ second.map (Segment.moved shift)).countP (·.kind == kind) =
      first.countP (·.kind == kind) + second.countP (·.kind == kind) := by
  rw [List.countP_append, List.countP_map]
  rfl

/-! ## Weaves -/

namespace Weave

variable {place : Nat} {segments : List Segment} {source code : List Char}

theorem moved (weave : Weave place segments source code) (shift : Nat) :
    Weave (place + shift) (segments.map (Segment.moved shift)) source code := by
  induction weave with
  | done place => exact .done _
  | @keep place segments source code c _ ih =>
      rw [Nat.add_right_comm] at ih
      exact .keep c ih
  | @swap place segments source code s start stop _ ih =>
      rw [Nat.add_right_comm] at ih
      apply Weave.swap (s := s.moved shift)
      · simp only [Segment.moved, start]
        omega
      · simp only [Segment.moved, stop]
        omega
      · exact ih

theorem append {behind : List Segment} {rest restCode : List Char}
    (weave : Weave place segments source code)
    (next : Weave (place + source.length) behind rest restCode) :
    Weave place (segments ++ behind) (source ++ rest) (code ++ restCode) := by
  induction weave with
  | done place => exact next
  | @keep place segments source code c _ ih =>
      rw [List.length_cons, ← Nat.add_assoc, Nat.add_right_comm] at next
      exact .keep c (ih next)
  | @swap place segments source code s start stop _ ih =>
      rw [List.length_append, ← Nat.add_assoc] at next
      rw [List.append_assoc, List.append_assoc]
      exact .swap start stop (ih next)

end Weave

/-! ## Segments of a part -/

section Parts

variable {profile : Profile} {source : List Char} {span : Span}

/-- A span of a part has the same content in the whole. -/
theorem content?_moved (separate : profile.Separate) (member : span ∈ scan profile source)
    (marker front back : List Char) :
    (span.moved front.length).content? marker (front ++ (source ++ back)) =
      span.content? marker source := by
  rcases exists_token_of_mem_scan separate member with ⟨token, before, after, rfl, rfl, _⟩
  have starts : before.length + front.length = (front ++ before).length := by
    rw [List.length_append, Nat.add_comm]
  have inWhole := token.content?_span marker (after ++ back) starts
  rw [← Token.span_add, token.content?_span marker after rfl, ← inWhole]
  simp only [List.append_assoc]

theorem spanEscape_moved (span : Span) (shift : Nat) :
    spanEscape (span.moved shift) = spanEscape span := by
  cases span <;> rfl

theorem spanKind_moved (span : Span) (shift : Nat) :
    spanKind (span.moved shift) = spanKind span := by
  cases span <;> rfl

theorem spanSegment?_moved (separate : profile.Separate) (member : span ∈ scan profile source)
    (marker : List Char) (entries : List Entry) (front back : List Char) :
    spanSegment? marker entries (front ++ (source ++ back)) (span.moved front.length) =
      (spanSegment? marker entries source span).map (Segment.moved front.length) := by
  cases isContent : span.content? marker source with
  | none =>
      have noContent := (content?_moved separate member marker front back).trans isContent
      rw [spanSegment?, noContent, spanSegment?, isContent]
      rfl
  | some content =>
      have inWhole := (content?_moved separate member marker front back).trans isContent
      rw [spanSegment?_of_content inWhole, spanSegment?_of_content isContent]
      simp only [spanEscape_moved, spanKind_moved, Span.around_moved, Span.start_moved,
        Span.stop_moved]
      split
      · rfl
      · simp [Segment.moved]

theorem spanSegments_append (separate : profile.Separate) {front : List Char}
    (endsLine : EndsLine front)
    (closed : ∀ literal, .string literal ∈ scan profile front → literal.terminated = true)
    (entries : List Entry) (back : List Char) :
    spanSegments profile entries (front ++ back) =
      spanSegments profile entries front
        ++ (spanSegments profile entries back).map (Segment.moved front.length) := by
  have inFront : (scan profile front).filterMap
        (spanSegment? profile.commentMarker entries (front ++ back)) =
      spanSegments profile entries front := by
    apply List.filterMap_congr
    intro span member
    have inWhole := spanSegment?_moved separate member profile.commentMarker entries [] back
    simpa using inWhole
  have inBack : (scan profile back).filterMap
        (spanSegment? profile.commentMarker entries (front ++ back) ∘ Span.moved front.length) =
      (spanSegments profile entries back).map (Segment.moved front.length) := by
    rw [spanSegments, List.map_filterMap]
    apply List.filterMap_congr
    intro span member
    have inWhole := spanSegment?_moved separate member profile.commentMarker entries front []
    rwa [List.append_nil] at inWhole
  rw [spanSegments, scan_append separate endsLine closed, List.filterMap_append,
    List.filterMap_map, inFront, inBack]

end Parts

/-- Glossing two texts as one gives the results of both, the second one further on, if the
first text is empty or ends with a line break and leaves no literal open. -/
theorem glossScanned_append {front : List Char} (endsLine : front = [] ∨ front.getLast? = some '\n')
    (closed : ∀ literal, .string literal ∈ scan {} front → literal.terminated = true)
    (back : List Char) (entries : List Entry) (language : List Char) :
    ∃ first second, glossScanned {} front entries language = .ok first
      ∧ glossScanned {} back entries language = .ok second
      ∧ glossScanned {} (front ++ back) entries language =
        .ok (first.followedBy front.length second) := by
  rcases exists_glossScanned separate_default front entries language with
    ⟨first, firstGlossed, firstSegments, firstWeave, firstPatch⟩
  rcases exists_glossScanned separate_default back entries language with
    ⟨second, secondGlossed, secondSegments, secondWeave, secondPatch⟩
  rcases exists_glossScanned separate_default (front ++ back) entries language with
    ⟨whole, wholeGlossed, wholeSegments, _, wholePatch⟩
  refine ⟨first, second, firstGlossed, secondGlossed, ?_⟩
  have segments : whole.segments =
      first.segments ++ second.segments.map (Segment.moved front.length) := by
    rw [wholeSegments, firstSegments, secondSegments]
    exact spanSegments_append separate_default (endsLine_iff.mpr endsLine) closed entries back
  have code : whole.code = first.code ++ second.code := by
    have laid := firstWeave.append (secondWeave.moved front.length)
    rw [← segments] at laid
    exact wholePatch.applied.symm.trans (laid.applyEach_edit [] rfl)
  have strings : whole.stringReplacements =
      first.stringReplacements + second.stringReplacements := by
    rw [wholePatch.strings, firstPatch.strings, secondPatch.strings, segments, countP_kind_append]
    exact Int.natCast_add _ _
  have comments : whole.commentReplacements =
      first.commentReplacements + second.commentReplacements := by
    rw [wholePatch.comments, firstPatch.comments, secondPatch.comments, segments,
      countP_kind_append]
    exact Int.natCast_add _ _
  rcases isStructural_of_glossScanned firstGlossed with ⟨firstLanguage, firstShape⟩
  rcases isStructural_of_glossScanned secondGlossed with ⟨_, secondShape⟩
  rcases isStructural_of_glossScanned wholeGlossed with ⟨wholeLanguage, wholeShape⟩
  have isWhole : whole = first.followedBy front.length second := by
    calc
      whole = ⟨whole.language, whole.code, whole.usedFallback, whole.segments,
          whole.stringReplacements, whole.commentReplacements⟩ := rfl
      _ = first.followedBy front.length second := by
        rw [wholeLanguage, code, wholeShape.usedFallback, segments, strings, comments,
          GlossedCode.followedBy, firstLanguage, firstShape.usedFallback, secondShape.usedFallback]
        rfl
  rw [wholeGlossed, isWhole]

/-- A comment ends at the seam, and the letter of a literal stands right behind it. -/
theorem glossScanned_append_lead :
    let entries : List Entry := [⟨"user".toList, "usuario".toList⟩]
    let front := "'' # user\n".toList
    let back := "b'user'".toList
    (front = [] ∨ front.getLast? = some '\n')
      ∧ (∀ literal, .string literal ∈ scan {} front → literal.terminated = true)
      ∧ ∃ first second, glossScanned {} front entries "python".toList = .ok first
        ∧ glossScanned {} back entries "python".toList = .ok second
        ∧ glossScanned {} (front ++ back) entries "python".toList =
          .ok (first.followedBy front.length second) := by
  intro entries front back
  have endsLine : front = [] ∨ front.getLast? = some '\n' := .inr (by decide)
  have isScan : scan {} front =
      [.string ⟨0, 2, 1, 1, [], '\'', false, true⟩, .comment 3 9] := by decide +kernel
  have closed : ∀ literal, .string literal ∈ scan {} front → literal.terminated = true := by
    rw [isScan]
    intro literal member
    rcases List.mem_cons.mp member with same | member
    · cases same
      rfl
    · simp at member
  exact ⟨endsLine, closed, glossScanned_append endsLine closed back entries "python".toList⟩

end CodeGloss.Gloss
