import CodeGloss.Proofs.Scan.Spans

/-!
# Scans across a seam

If a text ends with a line and no literal stays open in it, then what stands behind it is
scanned as if it stood alone. Before the seam the scanner looks ahead for a comment marker
or for a delimiter, and none of them reaches over a line break. Behind it the scanner looks
back for the letters before a quote, and they do not reach over a line break either.
-/

namespace CodeGloss.Scan

open Text

/-- The text is empty or ends with a line break. -/
def EndsLine (text : List Char) : Prop :=
  ∀ c ∈ text.getLast?, c = '\n'

theorem endsLine_iff {text : List Char} :
    EndsLine text ↔ text = [] ∨ text.getLast? = some '\n' := by
  cases isLast : text.getLast? with
  | none =>
      rw [List.getLast?_eq_none_iff] at isLast
      simp [EndsLine, isLast]
  | some c =>
      have nonempty : text ≠ [] := by
        rintro rfl
        contradiction
      simp [EndsLine, isLast, nonempty]

theorem EndsLine.of_append {front back : List Char} (endsLine : EndsLine (front ++ back)) :
    EndsLine back := by
  intro c isLast
  apply endsLine
  rw [List.getLast?_append, isLast]
  rfl

theorem EndsLine.of_cons {c : Char} {text : List Char} (endsLine : EndsLine (c :: text)) :
    EndsLine text :=
  @EndsLine.of_append [c] text endsLine

theorem EndsLine.mem_of_ne_nil {text : List Char} (endsLine : EndsLine text)
    (nonempty : text ≠ []) : '\n' ∈ text := by
  rw [← endsLine _ (List.getLast?_eq_some_getLast nonempty)]
  exact List.getLast_mem nonempty

/-! ## Looking ahead -/

section Ahead

variable {profile : Profile}

/-- A part without a line break does not reach over the end of a line. -/
theorem prefix_append_iff_of_endsLine {part text : List Char} (oneLine : '\n' ∉ part)
    (endsLine : EndsLine text) (nonempty : text ≠ []) (back : List Char) :
    part <+: text ++ back ↔ part <+: text := by
  constructor
  · intro starts
    by_cases within : part.length ≤ text.length
    · exact List.prefix_of_prefix_length_le starts (List.prefix_append text back) within
    · have inside := List.prefix_of_prefix_length_le (List.prefix_append text back) starts
        (Nat.le_of_not_le within)
      exact absurd (inside.subset (endsLine.mem_of_ne_nil nonempty)) oneLine
  · intro starts
    exact starts.trans (List.prefix_append text back)

/-- Whether three quotes open a literal is seen before the line ends. -/
theorem opens_append {quote : Char} {triple : Bool} {inside : List Char} (noLine : quote ≠ '\n')
    (endsLine : EndsLine (delimiterOf quote triple ++ inside)) (back : List Char) :
    [quote, quote].isPrefixOf (delimiterOf quote triple ++ (inside ++ back)).tail =
      [quote, quote].isPrefixOf (delimiterOf quote triple ++ inside).tail := by
  rcases delimiterOf_eq_cons quote triple with ⟨more, isDelimiter⟩
  rw [isDelimiter, List.cons_append] at endsLine
  have behind : more ++ inside ≠ [] := by
    intro empty
    rw [empty] at endsLine
    exact noLine (endsLine quote rfl)
  have oneLine : '\n' ∉ [quote, quote] := by
    simpa using noLine.symm
  have endsBehind := endsLine.of_cons
  rw [isDelimiter, List.cons_append, List.cons_append, List.tail_cons, List.tail_cons,
    ← List.append_assoc, Bool.eq_iff_iff, List.isPrefixOf_iff_prefix, List.isPrefixOf_iff_prefix,
    prefix_append_iff_of_endsLine oneLine endsBehind behind]

/-- A content that is closed stays closed there, however the text goes on. -/
theorem contentLength?_append {delimiter text : List Char} {raw : Bool} {length : Nat}
    (closes : contentLength? delimiter raw text = some length) (back : List Char) :
    contentLength? delimiter raw (text ++ back) = some length := by
  induction size : text.length using Nat.strongRecOn generalizing text length with
  | ind size ih =>
      subst size
      rcases exists_content_of_contentLength? closes with ⟨content, after, parts, _, _⟩
      cases text with
      | nil => contradiction
      | cons c rest =>
          have within : delimiter.length ≤ (c :: rest).length := by
            rw [parts, List.length_append, List.length_append]
            omega
          have sameHere :
              delimiter.isPrefixOf (c :: (rest ++ back)) = delimiter.isPrefixOf (c :: rest) := by
            rw [Bool.eq_iff_iff, List.isPrefixOf_iff_prefix, List.isPrefixOf_iff_prefix,
              ← List.cons_append]
            exact ⟨fun starts =>
              List.prefix_of_prefix_length_le starts (List.prefix_append _ back) within,
              fun starts => starts.trans (List.prefix_append _ back)⟩
          rw [contentLength?_cons] at closes
          rw [List.cons_append, contentLength?_cons, sameHere]
          split at closes
          · next isEscape =>
            rcases Option.map_eq_some_iff.mp closes with ⟨inner, innerCloses, rfl⟩
            cases rest with
            | nil => contradiction
            | cons skipped rest =>
                rw [List.tail_cons] at innerCloses
                rw [if_pos isEscape, List.cons_append, List.tail_cons,
                  ih rest.length (by simp only [List.length_cons]; omega) innerCloses rfl]
                rfl
          · next noEscape =>
            rw [if_neg noEscape]
            split at closes
            · next here =>
              rw [if_pos here]
              exact closes
            · next notHere =>
              rcases Option.map_eq_some_iff.mp closes with ⟨inner, innerCloses, rfl⟩
              rw [if_neg notHere, ih rest.length (Nat.lt_succ_self _) innerCloses rfl]
              rfl

/-- A literal that is closed before the line ends is read the same, however the text goes on. -/
theorem literal_append (separate : profile.Separate) {content rest lead : List Char} {quote : Char}
    {triple : Bool}
    (noMarker : ¬ profile.commentMarker <+:
      delimiterOf quote triple ++ (content ++ (delimiterOf quote triple ++ rest)))
    (isQuote : quote ∈ profile.quoteChars)
    (opens : [quote, quote].isPrefixOf
      (delimiterOf quote triple ++ (content ++ (delimiterOf quote triple ++ rest))).tail = triple)
    (closes : contentLength? (delimiterOf quote triple) (lead.any profile.rawChars.contains)
      (content ++ (delimiterOf quote triple ++ rest)) = some content.length)
    (endsLine : EndsLine
      (delimiterOf quote triple ++ (content ++ (delimiterOf quote triple ++ rest))))
    (back : List Char) :
    ¬ profile.commentMarker <+:
        delimiterOf quote triple ++ (content ++ (delimiterOf quote triple ++ (rest ++ back)))
      ∧ [quote, quote].isPrefixOf
        (delimiterOf quote triple
          ++ (content ++ (delimiterOf quote triple ++ (rest ++ back)))).tail = triple
      ∧ contentLength? (delimiterOf quote triple) (lead.any profile.rawChars.contains)
        (content ++ (delimiterOf quote triple ++ (rest ++ back))) = some content.length := by
  have noLine : quote ≠ '\n' := by
    rintro rfl
    exact separate.line_noQuote isQuote
  have nonempty := List.append_ne_nil_of_left_ne_nil (delimiterOf_ne_nil quote triple)
    (content ++ (delimiterOf quote triple ++ rest))
  have inside : content ++ (delimiterOf quote triple ++ (rest ++ back)) =
      content ++ (delimiterOf quote triple ++ rest) ++ back := by
    simp only [List.append_assoc]
  rw [inside, opens_append noLine endsLine, ← List.append_assoc (delimiterOf quote triple),
    prefix_append_iff_of_endsLine separate.marker_oneLine endsLine nonempty]
  exact ⟨noMarker, opens, contentLength?_append closes back⟩

/-- Behind a text that ends with a line the scan goes on as it would have started there. -/
theorem Cut.scanFrom_append (separate : profile.Separate) {before gap text tail : List Char}
    {pieces : List Piece} (cut : Cut profile before gap text pieces tail)
    (endsLine : EndsLine text) (place : Nat)
    (closed : ∀ literal, .string literal ∈ scanFrom profile (gap ++ before) place text →
      literal.terminated = true) (back : List Char) :
    scanFrom profile (gap ++ before) place (text ++ back) =
      scanFrom profile (gap ++ before) place text
        ++ scanFrom profile (text.reverse ++ (gap ++ before)) (place + text.length) back := by
  induction cut generalizing place with
  | done before gap =>
      rw [scanFrom]
      rfl
  | @pass before gap rest tail c pieces noMarker noQuote _ ih =>
      have noMarker' : ¬ profile.commentMarker <+: c :: (rest ++ back) := by
        rwa [← List.cons_append, prefix_append_iff_of_endsLine separate.marker_oneLine endsLine
          (List.cons_ne_nil _ _)]
      rw [scanFrom_pass _ _ noMarker noQuote] at closed ⊢
      have next := ih endsLine.of_cons (place + 1) closed
      rw [List.cons_append] at next
      rw [List.cons_append, scanFrom_pass _ _ noMarker' noQuote, next]
      simp [Nat.add_comm 1, Nat.add_assoc]
  | @comment before gap body rest tail pieces marker nonempty oneLine lineEnd _ ih =>
      have restNonempty : rest ≠ [] := by
        rintro rfl
        rw [List.append_nil] at endsLine
        exact oneLine (endsLine.mem_of_ne_nil nonempty)
      have lineEnd' : ∀ c ∈ (rest ++ back).head?, c = '\n' := by
        cases rest with
        | nil => exact absurd rfl restNonempty
        | cons => exact lineEnd
      have starts (after : List Char) : profile.commentMarker <+: body ++ after :=
        marker.trans (List.prefix_append body after)
      rw [scanFrom_comment _ _ (starts rest) nonempty oneLine lineEnd] at closed ⊢
      have next := ih endsLine.of_append (place + body.length)
        fun literal member => closed literal (List.mem_cons_of_mem _ member)
      rw [List.append_assoc, scanFrom_comment _ _ (starts _) nonempty oneLine lineEnd']
      rw [List.nil_append] at next
      rw [next]
      simp [Nat.add_assoc]
  | @string before free lead content rest tail quote triple pieces noMarker isQuote isLead opens
      closes _ ih =>
      rcases literal_append separate noMarker isQuote opens closes endsLine back with
        ⟨noMarker', opens', closes'⟩
      have endsRest : EndsLine rest := endsLine.of_append.of_append.of_append
      rw [List.append_assoc lead.reverse] at closed ⊢
      rw [scanFrom_string place noMarker isQuote isLead opens closes] at closed ⊢
      have next := ih endsRest _ fun literal member =>
        closed literal (List.mem_cons_of_mem _ member)
      rw [List.append_assoc, List.append_assoc, List.append_assoc,
        scanFrom_string place noMarker' isQuote isLead opens' closes']
      rw [List.nil_append] at next
      rw [next]
      simp [Nat.add_assoc]
  | @unclosed before free lead body quote triple noMarker isQuote isLead opens staysOpen =>
      rw [List.append_assoc, scanFrom_unclosed _ noMarker isQuote isLead opens staysOpen] at closed
      exact absurd (closed _ List.mem_cons_self) Bool.false_ne_true

end Ahead

/-! ## Looking back -/

section Behind

variable {profile : Profile}

/-- No letters before a quote reach over a line break, and no name goes on over it. -/
theorem leadBefore_append_line (noLead : '\n' ∉ profile.leadChars) (near before : List Char) :
    leadBefore profile (near ++ '\n' :: before) = leadBefore profile near := by
  have stops : profile.leadChars.contains '\n' = false := by simpa using noLead
  have within : (near.takeWhile profile.leadChars.contains).length ≤ near.length :=
    (List.takeWhile_prefix _).length_le
  have noName : continuesName '\n' = false := by decide
  simp only [leadBefore, takeWhile_append_cons near _ stops]
  rw [List.drop_append_of_le_length within]
  cases near.drop (near.takeWhile profile.leadChars.contains).length with
  | nil => simp [noName]
  | cons => rfl

/-- What stands behind a line break is cut as if nothing stood before. -/
theorem Cut.behind_line (noLead : '\n' ∉ profile.leadChars) {before gap text tail : List Char}
    {pieces : List Piece} (cut : Cut profile before gap text pieces tail) (passed : List Char) :
    Cut profile (before ++ '\n' :: passed) gap text pieces tail := by
  have sameLead {before free lead : List Char}
      (isLead : leadBefore profile (lead.reverse ++ (free ++ before)) = lead) :
      leadBefore profile (lead.reverse ++ (free ++ (before ++ '\n' :: passed))) = lead := by
    rwa [← List.append_assoc free, ← List.append_assoc lead.reverse,
      leadBefore_append_line noLead]
  induction cut with
  | done before gap => exact .done _ gap
  | pass noMarker noQuote _ ih => exact .pass noMarker noQuote ih
  | comment marker nonempty oneLine lineEnd _ ih =>
      simp only [List.append_assoc] at ih
      exact .comment marker nonempty oneLine lineEnd ih
  | string noMarker isQuote isLead opens closes _ ih =>
      simp only [List.append_assoc] at ih
      exact .string noMarker isQuote (sameLead isLead) opens closes
        (by simpa only [List.append_assoc] using ih)
  | unclosed noMarker isQuote isLead opens staysOpen =>
      exact .unclosed noMarker isQuote (sameLead isLead) opens staysOpen

theorem Cut.behind (noLead : '\n' ∉ profile.leadChars) {front text tail : List Char}
    {pieces : List Piece} (endsLine : EndsLine front) (cut : Cut profile [] [] text pieces tail) :
    Cut profile front.reverse [] text pieces tail := by
  rcases List.eq_nil_or_concat front with rfl | ⟨inner, last, rfl⟩
  · exact cut
  · rw [List.concat_eq_append] at endsLine ⊢
    have isLine : last = '\n' := endsLine last List.getLast?_concat
    rw [isLine, List.reverse_append]
    exact cut.behind_line noLead inner.reverse

end Behind

/-! ## Spans further on -/

def Literal.moved (shift : Nat) (literal : Literal) : Literal :=
  { literal with
    start := literal.start + shift
    stop := literal.stop + shift
    contentStart := literal.contentStart + shift
    contentStop := literal.contentStop + shift }

/-- The span where it stands with `shift` more characters before it. -/
def Span.moved (shift : Nat) : Span → Span
  | comment start stop => .comment (start + shift) (stop + shift)
  | string literal => .string (literal.moved shift)

@[simp]
theorem Span.moved_zero (span : Span) : span.moved 0 = span := by
  cases span <;> rfl

@[simp]
theorem Span.start_moved (span : Span) (shift : Nat) :
    (span.moved shift).start = span.start + shift := by
  cases span <;> rfl

@[simp]
theorem Span.stop_moved (span : Span) (shift : Nat) :
    (span.moved shift).stop = span.stop + shift := by
  cases span <;> rfl

@[simp]
theorem Span.around_moved (span : Span) (shift : Nat) (marker content : List Char) :
    (span.moved shift).around marker content = span.around marker content := by
  cases span <;> rfl

theorem Token.span_add (token : Token) (start shift : Nat) :
    token.span (start + shift) = (token.span start).moved shift := by
  cases token with
  | comment body => simp only [span, Span.moved, Nat.add_right_comm]
  | string lead quote triple content =>
      simp only [span, Span.moved, Literal.moved, Nat.add_right_comm _ shift]
  | unclosed lead quote triple body =>
      simp only [span, Span.moved, Literal.moved, Nat.add_right_comm _ shift]

theorem spansFrom_add (place shift : Nat) (pieces : List Piece) :
    spansFrom (place + shift) pieces = (spansFrom place pieces).map (Span.moved shift) := by
  induction pieces generalizing place with
  | nil => rfl
  | cons piece pieces ih =>
      rw [spansFrom, spansFrom, List.map_cons, ← Token.span_add, ← ih,
        Nat.add_right_comm place shift, Nat.add_right_comm place shift]

/-! ## The seam -/

/-- The scan of two texts is the scan of the first one and that of the second one further on,
if the first one ends with a line and leaves no literal open. -/
theorem scan_append {profile : Profile} (separate : profile.Separate) {front : List Char}
    (endsLine : EndsLine front)
    (closed : ∀ literal, .string literal ∈ scan profile front → literal.terminated = true)
    (back : List Char) :
    scan profile (front ++ back) =
      scan profile front ++ (scan profile back).map (Span.moved front.length) := by
  rcases exists_cut_source separate front with ⟨frontPieces, frontTail, frontCut⟩
  rcases exists_cut_source separate back with ⟨pieces, tail, cut⟩
  have split := frontCut.scanFrom_append separate endsLine 0 closed back
  have behind : scanFrom profile front.reverse front.length back =
      (scan profile back).map (Span.moved front.length) := by
    have isScan := scanFrom_of_cut (cut.behind separate.line_noLead endsLine)
    rw [List.nil_append, List.length_reverse] at isScan
    rw [isScan, scan_of_cut cut, ← spansFrom_add, Nat.zero_add]
  have split := frontCut.scanFrom_append separate endsLine 0 closed back
  rw [List.append_nil, List.append_nil, Nat.zero_add, behind] at split
  exact split

end CodeGloss.Scan
