import CodeGloss.Proofs.Scan.CutScan
import CodeGloss.Proofs.Text.Slice

/-!
# The spans of a scan

Though a literal starts before the quote at which it is found, the spans of a scan
stand one behind the other, each with at least one character. At a comment stands
its marker before its content, and at a terminated literal its letters and
delimiters around its content.
-/

namespace CodeGloss.Scan

open Text

def Span.start : Span → Nat
  | comment start _ => start
  | string literal => literal.start

def Span.stop : Span → Nat
  | comment _ stop => stop
  | string literal => literal.stop

/-- What a span has to translate: the text behind the marker, or between the
delimiters of a literal that has both. -/
def Span.content? (marker source : List Char) : Span → Option (List Char)
  | comment start stop => some (slice source (start + marker.length) stop)
  | string literal =>
      if literal.terminated then
        some (slice source literal.contentStart literal.contentStop)
      else none

/-- The marker, or the letters and delimiters of a span, around a content. -/
def Span.around (marker : List Char) (content : List Char) : Span → List Char
  | comment _ _ => marker ++ content
  | string literal => literal.lead ++ literal.delimiter ++ content ++ literal.delimiter

/-- What stands at the span is what the span says. -/
def Span.ShowsIn (marker source : List Char) (span : Span) : Prop :=
  ∀ content ∈ span.content? marker source,
    slice source span.start span.stop = span.around marker content

/-! ## Spans of tokens -/

namespace Token

@[simp]
theorem start_span (token : Token) (start : Nat) : (token.span start).start = start := by
  cases token <;> rfl

@[simp]
theorem stop_span (token : Token) (start : Nat) :
    (token.span start).stop = start + token.text.length := by
  cases token with
  | comment body => rfl
  | string lead quote triple content =>
      simp only [span, Span.stop, text, List.length_append]
      omega
  | unclosed lead quote triple body =>
      simp only [span, Span.stop, text, List.length_append]
      omega

def content? (marker : List Char) : Token → Option (List Char)
  | comment body => some (body.drop marker.length)
  | string _ _ _ content => some content
  | unclosed .. => none

/-- The content of a token that stands in a text is the content of its span. -/
theorem content?_span (marker : List Char) (token : Token) {before : List Char}
    (after : List Char) {start : Nat} (starts : start = before.length) :
    (token.span start).content? marker (before ++ (token.text ++ after)) =
      token.content? marker := by
  cases token with
  | comment body =>
      have inner : slice (before ++ (body ++ after)) (start + marker.length)
          (start + body.length) = body.drop marker.length := by
        rw [slice, ← List.drop_drop]
        exact congrArg (List.drop marker.length) (slice_of_append starts (by rw [starts]))
      exact congrArg some inner
  | string lead quote triple content =>
      have inner : slice
          (before ++ ((lead ++ (delimiterOf quote triple ++ (content ++ delimiterOf quote triple)))
            ++ after))
          (start + lead.length + (delimiterOf quote triple).length)
          (start + lead.length + (delimiterOf quote triple).length + content.length) =
            content := by
        rw [List.append_assoc lead, List.append_assoc (delimiterOf quote triple),
          List.append_assoc content, ← List.append_assoc lead, ← List.append_assoc before]
        apply slice_of_append
        · rw [starts, List.length_append, List.length_append, Nat.add_assoc]
        · rw [starts, List.length_append, List.length_append, ← Nat.add_assoc]
      exact congrArg some inner
  | unclosed lead quote triple body => rfl

/-- A comment starts with the marker, and a literal with a quote. -/
def Fits (profile : Profile) : Token → Prop
  | comment body => profile.commentMarker <+: body ∧ body ≠ []
  | string _ quote _ _ => quote ∈ profile.quoteChars
  | unclosed _ quote _ _ => quote ∈ profile.quoteChars

theorem Fits.ne_nil {profile : Profile} {token : Token} (fits : token.Fits profile) :
    token.text ≠ [] := by
  cases token with
  | comment body => exact fits.2
  | string lead quote triple content =>
      rcases delimiterOf_eq_cons quote triple with ⟨more, isDelimiter⟩
      simp [text, isDelimiter]
  | unclosed lead quote triple body =>
      rcases delimiterOf_eq_cons quote triple with ⟨more, isDelimiter⟩
      simp [text, isDelimiter]

theorem Fits.around_span {profile : Profile} {token : Token} (fits : token.Fits profile)
    (start : Nat) {content : List Char}
    (isContent : content ∈ token.content? profile.commentMarker) :
    (token.span start).around profile.commentMarker content = token.text := by
  cases token with
  | comment body =>
      rcases fits.1 with ⟨behind, rfl⟩
      cases isContent
      rw [List.drop_left]
      rfl
  | string lead quote triple inner =>
      cases isContent
      simp only [span, Span.around, text, Literal.delimiter_eq, List.append_assoc]
  | unclosed lead quote triple body => contradiction

theorem Fits.showsIn {profile : Profile} {token : Token} (fits : token.Fits profile)
    {before : List Char} (after : List Char) {start : Nat} (starts : start = before.length) :
    (token.span start).ShowsIn profile.commentMarker (before ++ (token.text ++ after)) := by
  intro content isContent
  rw [content?_span _ token after starts] at isContent
  rw [fits.around_span start isContent, start_span, stop_span]
  exact slice_of_append starts (by rw [starts])

end Token

/-! ## Spans of pieces -/

theorem mem_spansFrom {place : Nat} {pieces : List Piece} {span : Span}
    (member : span ∈ spansFrom place pieces) :
    ∃ front piece behind, pieces = front ++ piece :: behind
      ∧ span = piece.token.span (place + (textOf front ++ piece.gap).length) := by
  induction pieces generalizing place with
  | nil => contradiction
  | cons piece pieces ih =>
      rcases List.mem_cons.mp member with rfl | later
      · exact ⟨[], piece, pieces, rfl, rfl⟩
      · rcases ih later with ⟨front, found, behind, rfl, isSpan⟩
        refine ⟨piece :: front, found, behind, rfl, ?_⟩
        rw [isSpan]
        congr 1
        simp only [textOf_cons, Piece.text, List.length_append]
        omega

theorem pairwise_spansFrom (place : Nat) (pieces : List Piece) :
    (spansFrom place pieces).Pairwise fun a b => a.stop ≤ b.start := by
  induction pieces generalizing place with
  | nil => exact .nil
  | cons piece pieces ih =>
      apply List.Pairwise.cons _ (ih _)
      intro span member
      rcases mem_spansFrom member with ⟨front, found, behind, rfl, rfl⟩
      simp only [Token.stop_span, Token.start_span, Piece.text, List.length_append]
      omega

/-! ## Spans of a scan -/

section Scans

variable {profile : Profile}

theorem Cut.fits {before gap text tail : List Char} {pieces : List Piece}
    (cut : Cut profile before gap text pieces tail) :
    ∀ piece ∈ pieces, piece.token.Fits profile := by
  induction cut with
  | done => simp
  | pass _ _ _ ih => exact ih
  | comment marker nonempty _ _ _ ih => exact List.forall_mem_cons.mpr ⟨⟨marker, nonempty⟩, ih⟩
  | string _ isQuote _ _ _ _ ih => exact List.forall_mem_cons.mpr ⟨isQuote, ih⟩
  | unclosed _ isQuote _ _ _ => exact List.forall_mem_cons.mpr ⟨isQuote, by simp⟩

/-- Each span of a scan is the span of a piece, whose token stands between the pieces before
and the pieces behind. -/
theorem Cut.exists_parts_of_mem_scan {source tail : List Char} {pieces : List Piece} {span : Span}
    (cut : Cut profile [] [] source pieces tail) (member : span ∈ scan profile source) :
    ∃ front piece behind, pieces = front ++ piece :: behind
      ∧ source = (textOf front ++ piece.gap) ++ (piece.token.text ++ (textOf behind ++ tail))
      ∧ span = piece.token.span (textOf front ++ piece.gap).length := by
  rw [scan_of_cut cut] at member
  rcases mem_spansFrom member with ⟨front, piece, behind, rfl, rfl⟩
  refine ⟨front, piece, behind, rfl, ?_, by rw [Nat.zero_add]⟩
  have whole := cut.textOf_append
  rw [List.reverse_nil, List.nil_append] at whole
  rw [← whole]
  simp [textOf, Piece.text]

/-- Behind a comment the line ends. -/
theorem Cut.lineEnd {before gap text tail commentGap body : List Char}
    {pieces front behind : List Piece} (cut : Cut profile before gap text pieces tail)
    (parts : pieces = front ++ ⟨commentGap, .comment body⟩ :: behind) :
    ∀ c ∈ (textOf behind ++ tail).head?, c = '\n' := by
  induction cut generalizing front with
  | done before gap => simp at parts
  | pass _ _ _ ih => exact ih parts
  | comment _ _ _ lineEnd next ih =>
      cases front with
      | nil =>
          rw [List.nil_append, List.cons.injEq] at parts
          rw [← parts.2, next.textOf_append]
          exact lineEnd
      | cons piece front =>
          rw [List.cons_append, List.cons.injEq] at parts
          exact ih parts.2
  | string _ _ _ _ _ _ ih =>
      cases front with
      | nil => simp at parts
      | cons piece front =>
          rw [List.cons_append, List.cons.injEq] at parts
          exact ih parts.2
  | unclosed => cases front <;> simp at parts

/-- Each span of a scan is the span of a piece of a cut, where its token stands in the
source. -/
theorem exists_piece_of_mem_scan (separate : profile.Separate) {source : List Char} {span : Span}
    (member : span ∈ scan profile source) :
    ∃ (pieces : List Piece) (tail before after : List Char), ∃ piece ∈ pieces,
      Cut profile [] [] source pieces tail ∧ source = before ++ (piece.token.text ++ after)
        ∧ span = piece.token.span before.length := by
  rcases exists_cut_source separate source with ⟨pieces, tail, cut⟩
  rcases cut.exists_parts_of_mem_scan member with ⟨front, piece, behind, rfl, isSource, isSpan⟩
  exact ⟨_, tail, _, _, piece, by simp, cut, isSource, isSpan⟩

/-- Each span of a scan is the span of a token that stands in the source. -/
theorem exists_token_of_mem_scan (separate : profile.Separate) {source : List Char} {span : Span}
    (member : span ∈ scan profile source) :
    ∃ (token : Token) (before after : List Char), source = before ++ (token.text ++ after)
      ∧ span = token.span before.length ∧ token.Fits profile := by
  rcases exists_piece_of_mem_scan separate member with
    ⟨pieces, tail, before, after, piece, pieceMem, cut, isSource, isSpan⟩
  exact ⟨piece.token, before, after, isSource, isSpan, cut.fits piece pieceMem⟩

theorem pairwise_scan (separate : profile.Separate) (source : List Char) :
    (scan profile source).Pairwise fun a b => a.stop ≤ b.start := by
  rcases exists_cut_source separate source with ⟨pieces, tail, cut⟩
  rw [scan_of_cut cut]
  exact pairwise_spansFrom 0 pieces

theorem bounds_of_mem_scan (separate : profile.Separate) {source : List Char} {span : Span}
    (member : span ∈ scan profile source) : span.start < span.stop ∧ span.stop ≤ source.length := by
  rcases exists_token_of_mem_scan separate member with ⟨token, before, after, rfl, rfl, fits⟩
  have positive := List.length_pos_iff.mpr fits.ne_nil
  simp only [Token.start_span, Token.stop_span, List.length_append]
  omega

theorem showsIn_of_mem_scan (separate : profile.Separate) {source : List Char} {span : Span}
    (member : span ∈ scan profile source) : span.ShowsIn profile.commentMarker source := by
  rcases exists_token_of_mem_scan separate member with ⟨token, before, after, rfl, rfl, fits⟩
  exact fits.showsIn after rfl

end Scans

end CodeGloss.Scan
