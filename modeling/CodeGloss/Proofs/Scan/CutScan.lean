import CodeGloss.Proofs.Scan.Cut

/-!
# The scan of a cut

Each rule by which a text is cut is a step of the scan, so the scan finds the
spans of the pieces. Since every text can be cut, this describes every scan.
-/

namespace CodeGloss.Scan

open Text

section Scans

variable {profile : Profile}

theorem readLiteral_of_closes {passed inner lead : List Char} {quote : Char} {triple : Bool}
    {length : Nat} (place : Nat) (isLead : leadBefore profile passed = lead)
    (opens : [quote, quote].isPrefixOf (delimiterOf quote triple ++ inner).tail = triple)
    (closes : contentLength? (delimiterOf quote triple) (lead.any profile.rawChars.contains)
      inner = some length) :
    readLiteral profile passed place quote (delimiterOf quote triple ++ inner).tail =
      ⟨place - lead.length,
        place + (delimiterOf quote triple).length + length + (delimiterOf quote triple).length,
        place + (delimiterOf quote triple).length,
        place + (delimiterOf quote triple).length + length, lead, quote, triple, true⟩ := by
  unfold readLiteral
  rw [isLead, opens]
  cases triple <;> simp_all [delimiterOf]

theorem readLiteral_of_staysOpen {passed inner lead : List Char} {quote : Char} {triple : Bool}
    (place : Nat) (isLead : leadBefore profile passed = lead)
    (opens : [quote, quote].isPrefixOf (delimiterOf quote triple ++ inner).tail = triple)
    (staysOpen : contentLength? (delimiterOf quote triple) (lead.any profile.rawChars.contains)
      inner = none) :
    readLiteral profile passed place quote (delimiterOf quote triple ++ inner).tail =
      ⟨place - lead.length, place + (delimiterOf quote triple ++ inner).length,
        place + (delimiterOf quote triple).length, place + (delimiterOf quote triple).length,
        lead, quote, triple, false⟩ := by
  unfold readLiteral
  rw [isLead, opens]
  cases triple <;> simp_all [delimiterOf] <;> omega

/-- Whether a literal is closed or stays open, what is read is told by its opener and by the
length of its content. -/
theorem readLiteral_cases (profile : Profile) (passed : List Char) (place : Nat) (quote : Char)
    (rest : List Char) :
    ∃ triple inner, quote :: rest = delimiterOf quote triple ++ inner
      ∧ [quote, quote].isPrefixOf rest = triple
      ∧ ((contentLength? (delimiterOf quote triple)
            ((leadBefore profile passed).any profile.rawChars.contains) inner = none
          ∧ readLiteral profile passed place quote rest =
            ⟨place - (leadBefore profile passed).length,
              place + (delimiterOf quote triple ++ inner).length,
              place + (delimiterOf quote triple).length, place + (delimiterOf quote triple).length,
              leadBefore profile passed, quote, triple, false⟩)
        ∨ ∃ length, contentLength? (delimiterOf quote triple)
            ((leadBefore profile passed).any profile.rawChars.contains) inner = some length
          ∧ readLiteral profile passed place quote rest =
            ⟨place - (leadBefore profile passed).length,
              place + (delimiterOf quote triple).length + length
                + (delimiterOf quote triple).length,
              place + (delimiterOf quote triple).length,
              place + (delimiterOf quote triple).length + length, leadBefore profile passed, quote,
              triple, true⟩) := by
  rcases exists_opening quote rest with ⟨triple, inner, isText, opens⟩
  have isRest : (delimiterOf quote triple ++ inner).tail = rest := by
    rw [← isText]
    rfl
  refine ⟨triple, inner, isText, isRest ▸ opens, ?_⟩
  cases closes : contentLength? (delimiterOf quote triple)
      ((leadBefore profile passed).any profile.rawChars.contains) inner with
  | none =>
      left
      have reads := readLiteral_of_staysOpen place rfl opens closes
      rw [isRest] at reads
      exact ⟨rfl, reads⟩
  | some length =>
      right
      have reads := readLiteral_of_closes place rfl opens closes
      rw [isRest] at reads
      exact ⟨length, rfl, reads⟩

theorem takeWhile_of_oneLine {body rest : List Char} (oneLine : '\n' ∉ body)
    (lineEnd : ∀ c ∈ rest.head?, c = '\n') : (body ++ rest).takeWhile (· != '\n') = body := by
  rw [List.takeWhile_append_of_pos]
  · cases rest with
    | nil => simp
    | cons c rest =>
        rw [lineEnd c rfl]
        simp
  · intro c member
    rw [bne_iff_ne]
    rintro rfl
    exact oneLine member

theorem scanFrom_comment {body rest : List Char} (passed : List Char) (place : Nat)
    (marker : profile.commentMarker <+: body ++ rest) (nonempty : body ≠ [])
    (oneLine : '\n' ∉ body) (lineEnd : ∀ c ∈ rest.head?, c = '\n') :
    scanFrom profile passed place (body ++ rest) =
      .comment place (place + body.length)
        :: scanFrom profile (body.reverse ++ passed) (place + body.length) rest := by
  have isBody := takeWhile_of_oneLine oneLine lineEnd
  rw [← List.isPrefixOf_iff_prefix] at marker
  cases body with
  | nil => contradiction
  | cons c body =>
      have isRest : (body ++ rest).drop ((c :: body).length - 1) = rest := by
        rw [List.length_cons, Nat.add_sub_cancel, List.drop_left]
      rw [List.cons_append] at marker isBody ⊢
      rw [scanFrom, if_pos marker]
      simp only [isBody]
      rw [if_neg (by simp), isRest]

theorem scanFrom_pass {c : Char} {rest : List Char} (passed : List Char) (place : Nat)
    (noMarker : ¬ profile.commentMarker <+: c :: rest) (noQuote : c ∉ profile.quoteChars) :
    scanFrom profile passed place (c :: rest) =
      scanFrom profile (c :: passed) (place + 1) rest := by
  rw [← List.isPrefixOf_iff_prefix] at noMarker
  rw [scanFrom, if_neg noMarker, if_neg (by simpa using noQuote)]

/-- Behind a quote the scan goes on where the literal stops. -/
theorem scanFrom_literal {passed inside rest : List Char} {quote : Char} (place : Nat)
    (noMarker : ¬ profile.commentMarker <+: quote :: (inside ++ rest))
    (isQuote : quote ∈ profile.quoteChars)
    (stop : (readLiteral profile passed place quote (inside ++ rest)).stop =
      place + (quote :: inside).length) :
    scanFrom profile passed place (quote :: (inside ++ rest)) =
      .string (readLiteral profile passed place quote (inside ++ rest))
        :: scanFrom profile ((quote :: inside).reverse ++ passed)
          (place + (quote :: inside).length) rest := by
  have used : place + (quote :: inside).length - place - 1 = inside.length := by
    rw [Nat.add_sub_cancel_left, List.length_cons, Nat.add_sub_cancel]
  have behind : place + 1 + inside.length = place + (quote :: inside).length := by
    rw [Nat.add_assoc, Nat.add_comm 1, List.length_cons]
  rw [← List.isPrefixOf_iff_prefix] at noMarker
  rw [scanFrom, if_neg noMarker, if_pos (by simpa using isQuote)]
  simp only [stop]
  rw [used, behind, List.take_left, List.drop_left]

theorem scanFrom_string {passed content rest lead : List Char} {quote : Char} {triple : Bool}
    (place : Nat)
    (noMarker : ¬ profile.commentMarker <+:
      delimiterOf quote triple ++ (content ++ (delimiterOf quote triple ++ rest)))
    (isQuote : quote ∈ profile.quoteChars) (isLead : leadBefore profile passed = lead)
    (opens : [quote, quote].isPrefixOf
      (delimiterOf quote triple ++ (content ++ (delimiterOf quote triple ++ rest))).tail = triple)
    (closes : contentLength? (delimiterOf quote triple) (lead.any profile.rawChars.contains)
      (content ++ (delimiterOf quote triple ++ rest)) = some content.length) :
    scanFrom profile passed place
        (delimiterOf quote triple ++ (content ++ (delimiterOf quote triple ++ rest))) =
      .string ⟨place - lead.length,
          place + (delimiterOf quote triple).length + content.length
            + (delimiterOf quote triple).length,
          place + (delimiterOf quote triple).length,
          place + (delimiterOf quote triple).length + content.length, lead, quote, triple, true⟩
        :: scanFrom profile
          ((delimiterOf quote triple ++ (content ++ delimiterOf quote triple)).reverse ++ passed)
          (place + (delimiterOf quote triple ++ (content ++ delimiterOf quote triple)).length)
          rest := by
  have isLiteral := readLiteral_of_closes place isLead opens closes
  rcases delimiterOf_eq_cons quote triple with ⟨more, isDelimiter⟩
  have opened (after : List Char) :
      delimiterOf quote triple ++ after = quote :: (more ++ after) := by
    rw [isDelimiter, List.cons_append]
  have whole : more ++ (content ++ (delimiterOf quote triple ++ rest)) =
      (more ++ (content ++ delimiterOf quote triple)) ++ rest := by
    simp only [List.append_assoc]
  rw [opened, whole] at noMarker isLiteral ⊢
  rw [List.tail_cons] at isLiteral
  rw [opened (content ++ delimiterOf quote triple), scanFrom_literal place noMarker isQuote,
    isLiteral]
  rw [isLiteral, ← opened]
  simp only [List.length_append, Nat.add_assoc]

theorem scanFrom_unclosed {passed body lead : List Char} {quote : Char} {triple : Bool}
    (place : Nat) (noMarker : ¬ profile.commentMarker <+: delimiterOf quote triple ++ body)
    (isQuote : quote ∈ profile.quoteChars) (isLead : leadBefore profile passed = lead)
    (opens : [quote, quote].isPrefixOf (delimiterOf quote triple ++ body).tail = triple)
    (staysOpen : contentLength? (delimiterOf quote triple) (lead.any profile.rawChars.contains)
      body = none) :
    scanFrom profile passed place (delimiterOf quote triple ++ body) =
      [.string ⟨place - lead.length, place + (delimiterOf quote triple ++ body).length,
        place + (delimiterOf quote triple).length, place + (delimiterOf quote triple).length,
        lead, quote, triple, false⟩] := by
  have isLiteral := readLiteral_of_staysOpen place isLead opens staysOpen
  rcases delimiterOf_eq_cons quote triple with ⟨more, isDelimiter⟩
  have opened : delimiterOf quote triple ++ body = quote :: ((more ++ body) ++ []) := by
    rw [isDelimiter, List.cons_append, List.append_nil]
  rw [opened] at noMarker isLiteral ⊢
  rw [List.tail_cons] at isLiteral
  rw [scanFrom_literal place noMarker isQuote, isLiteral, scanFrom]
  rw [isLiteral, List.append_nil]

/-- A literal starts where its letters do, behind the rest of the gap. -/
theorem length_sub_lead (lead free before : List Char) :
    (lead.reverse ++ (free ++ before)).length - lead.length =
      before.length + free.reverse.length := by
  rw [List.length_append, List.length_reverse, Nat.add_sub_cancel_left, List.length_append,
    List.length_reverse, Nat.add_comm]

theorem length_add_lead (lead free before : List Char) :
    before.length + free.reverse.length + lead.length =
      (lead.reverse ++ (free ++ before)).length := by
  rw [List.length_append, List.length_reverse, List.length_append, List.length_reverse,
    Nat.add_comm before.length, Nat.add_comm lead.length]

/-- The scan of a text finds the spans of its pieces. -/
theorem scanFrom_of_cut {before gap text tail : List Char} {pieces : List Piece}
    (cut : Cut profile before gap text pieces tail) :
    scanFrom profile (gap ++ before) (gap ++ before).length text =
      spansFrom before.length pieces := by
  induction cut with
  | done before gap =>
      rw [scanFrom]
      rfl
  | pass noMarker noQuote _ ih =>
      rw [scanFrom_pass _ _ noMarker noQuote, ← ih]
      rfl
  | @comment before gap body rest tail pieces marker nonempty oneLine lineEnd _ ih =>
      have gapEnd : before.length + gap.reverse.length = (gap ++ before).length := by
        rw [List.length_reverse, List.length_append, Nat.add_comm]
      have pieceEnd : before.length + (Piece.text ⟨gap.reverse, .comment body⟩).length =
          (gap ++ before).length + body.length := by
        rw [Piece.text, List.length_append, ← Nat.add_assoc, gapEnd]
        rfl
      have passedEnd : (body.reverse ++ (gap ++ before)).length =
          (gap ++ before).length + body.length := by
        rw [List.length_append, List.length_reverse, Nat.add_comm]
      rw [List.nil_append, passedEnd] at ih
      rw [scanFrom_comment _ _ (marker.trans (List.prefix_append _ _)) nonempty oneLine lineEnd,
        spansFrom, pieceEnd, gapEnd, ih]
      rfl
  | @string before free lead content rest tail quote triple pieces noMarker isQuote isLead opens
      closes _ ih =>
      have pieceEnd : before.length
            + (Piece.text ⟨free.reverse, .string lead quote triple content⟩).length =
          (lead.reverse ++ (free ++ before)).length
            + (delimiterOf quote triple ++ (content ++ delimiterOf quote triple)).length := by
        rw [← length_add_lead, Piece.text, Token.text, List.length_append, List.length_append,
          Nat.add_assoc, Nat.add_assoc]
      have passedEnd : ((delimiterOf quote triple ++ (content ++ delimiterOf quote triple)).reverse
            ++ (lead.reverse ++ (free ++ before))).length =
          (lead.reverse ++ (free ++ before)).length
            + (delimiterOf quote triple ++ (content ++ delimiterOf quote triple)).length := by
        rw [List.length_append, List.length_reverse, Nat.add_comm]
      rw [List.nil_append, passedEnd] at ih
      rw [List.append_assoc, scanFrom_string _ noMarker isQuote isLead opens closes, spansFrom,
        pieceEnd, ih, Token.span, length_sub_lead]
      simp only [length_add_lead]
  | @unclosed before free lead body quote triple noMarker isQuote isLead opens staysOpen =>
      have bodyEnd : (delimiterOf quote triple ++ body).length =
          (delimiterOf quote triple).length + body.length := List.length_append
      rw [List.append_assoc, scanFrom_unclosed _ noMarker isQuote isLead opens staysOpen, spansFrom,
        Token.span, spansFrom, length_sub_lead]
      simp only [length_add_lead, bodyEnd, ← Nat.add_assoc]

theorem scan_of_cut {source tail : List Char} {pieces : List Piece}
    (cut : Cut profile [] [] source pieces tail) : scan profile source = spansFrom 0 pieces :=
  scanFrom_of_cut cut

theorem exists_cut_source (separate : profile.Separate) (source : List Char) :
    ∃ pieces tail, Cut profile [] [] source pieces tail :=
  exists_cut separate (.inl (leadFits_nil profile))

end Scans

end CodeGloss.Scan
