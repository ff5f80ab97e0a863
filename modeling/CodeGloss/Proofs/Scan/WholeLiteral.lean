import CodeGloss.Proofs.Scan.Change

/-!
# Literals that are a whole text

The text of a literal can be read by itself. It is one literal from its first
character to its last exactly if what stands between the delimiters is a content, that
is, if the closing delimiter stands nowhere before the end. What a scan finds is such
a text.
-/

namespace CodeGloss.Scan

open Text

/-- Read at the quote behind `lead`, the text is one terminated literal with these
letters, this quote and one or three delimiters, from its first character to its last. -/
def IsWholeLiteral (profile : Profile) (lead : List Char) (quote : Char) (triple : Bool)
    (text : List Char) : Prop :=
  ∃ literal ∈ readLiteralAt? profile text lead.length,
    literal.terminated = true ∧ literal.lead = lead ∧ literal.quote = quote
      ∧ literal.triple = triple ∧ literal.start = 0 ∧ literal.stop = text.length

instance (profile : Profile) (lead : List Char) (quote : Char) (triple : Bool)
    (text : List Char) : Decidable (IsWholeLiteral profile lead quote triple text) :=
  inferInstanceAs (Decidable (∃ literal ∈ readLiteralAt? profile text lead.length,
    literal.terminated = true ∧ literal.lead = lead ∧ literal.quote = quote
      ∧ literal.triple = triple ∧ literal.start = 0 ∧ literal.stop = text.length))

section Whole

variable {profile : Profile} {lead content : List Char} {quote : Char} {triple raw : Bool}

/-- With nothing but letters before it, a quote has all of them. -/
theorem leadBefore_reverse (isLead : ∀ c ∈ lead, c ∈ profile.leadChars) :
    leadBefore profile lead.reverse = lead := by
  have accepted : ∀ c ∈ lead.reverse, profile.leadChars.contains c = true := by
    intro c member
    rw [List.contains_iff_mem]
    exact isLead c (List.mem_reverse.mp member)
  have all : (lead.reverse ++ []).takeWhile profile.leadChars.contains = lead.reverse ++ [] :=
    List.takeWhile_append_of_pos accepted
  rw [List.append_nil] at all
  simp only [leadBefore, all, List.drop_length, List.head?_nil, Option.any_none,
    Bool.false_eq_true, if_false, List.reverse_reverse]

theorem readLiteralAt?_append (profile : Profile) (lead inner : List Char) (quote : Char)
    (triple : Bool) :
    readLiteralAt? profile (lead ++ (delimiterOf quote triple ++ inner)) lead.length =
      some (readLiteral profile lead.reverse lead.length quote
        (delimiterOf quote triple ++ inner).tail) := by
  rcases delimiterOf_eq_cons quote triple with ⟨more, isDelimiter⟩
  rw [readLiteralAt?, List.drop_left, List.take_left, isDelimiter]
  rfl

theorem triple_readLiteral (profile : Profile) (passed : List Char) (place : Nat) (quote : Char)
    (rest : List Char) :
    (readLiteral profile passed place quote rest).triple = [quote, quote].isPrefixOf rest := by
  simp only [readLiteral]
  split <;> rfl

/-- A content before the delimiter does not open with more quotes than the delimiter. -/
theorem Content.opens (noBackslash : quote ≠ '\\')
    (isContent : Content (delimiterOf quote triple) raw content) :
    [quote, quote].isPrefixOf
      (delimiterOf quote triple ++ (content ++ delimiterOf quote triple)).tail = triple := by
  cases triple with
  | true => simp [delimiterOf]
  | false =>
      cases content with
      | nil => simp [delimiterOf]
      | cons c content =>
          have differs := isContent.head_ne noBackslash
          simp [delimiterOf, List.isPrefixOf, Ne.symm differs]

/-- Letters, delimiter, text and delimiter are one literal exactly if the text is a
content. -/
theorem isWholeLiteral_iff_content (isLead : ∀ c ∈ lead, c ∈ profile.leadChars)
    (noBackslash : quote ≠ '\\') :
    IsWholeLiteral profile lead quote triple
        (lead ++ (delimiterOf quote triple ++ (content ++ delimiterOf quote triple))) ↔
      Content (delimiterOf quote triple) (lead.any profile.rawChars.contains) content := by
  have sameLead := leadBefore_reverse isLead
  rw [IsWholeLiteral, readLiteralAt?_append]
  simp only [Option.mem_some_iff, exists_eq_left']
  constructor
  · rintro ⟨terminated, _, _, opens, _, stop⟩
    rw [triple_readLiteral] at opens
    cases closes : contentLength? (delimiterOf quote triple) (lead.any profile.rawChars.contains)
        (content ++ delimiterOf quote triple) with
    | none =>
        rw [readLiteral_of_staysOpen lead.length sameLead opens closes] at terminated
        contradiction
    | some length =>
        rw [readLiteral_of_closes lead.length sameLead opens closes] at stop
        have sameLength : length = content.length := by
          simp only [List.length_append] at stop
          omega
        rw [sameLength] at closes
        have closesAtEnd : contentLength? (delimiterOf quote triple)
            (lead.any profile.rawChars.contains) (content ++ (delimiterOf quote triple ++ [])) =
              some content.length := by
          rw [List.append_nil]
          exact closes
        exact content_of_closes closesAtEnd
  · intro isContent
    have opens := isContent.opens noBackslash
    have closes := contentLength?_of_content noBackslash isContent []
    rw [List.append_nil] at closes
    rw [readLiteral_of_closes lead.length sameLead opens closes]
    refine ⟨rfl, rfl, rfl, rfl, Nat.sub_self _, ?_⟩
    simp only [List.length_append]
    omega

end Whole

/-! ## Literals of a scan -/

/-- A comment lies on one line. Before the quote of a literal stand only letters that
may, and its delimiter stands for the first time behind its content. -/
def Token.Reads (profile : Profile) : Token → Prop
  | comment body => '\n' ∉ body
  | string lead quote triple content =>
      (∀ c ∈ lead, c ∈ profile.leadChars)
        ∧ Content (delimiterOf quote triple) (lead.any profile.rawChars.contains) content
  | unclosed .. => True

section Scans

variable {profile : Profile}

theorem mem_leadChars_of_mem_leadBefore {passed : List Char} {c : Char}
    (member : c ∈ leadBefore profile passed) : c ∈ profile.leadChars := by
  simp only [leadBefore] at member
  split at member
  · contradiction
  · have all := List.all_takeWhile (p := profile.leadChars.contains) (l := passed)
    simpa using List.all_eq_true.mp all c (List.mem_reverse.mp member)

theorem Cut.reads {before gap text tail : List Char} {pieces : List Piece}
    (cut : Cut profile before gap text pieces tail) :
    ∀ piece ∈ pieces, piece.token.Reads profile := by
  induction cut with
  | done => simp
  | pass _ _ _ ih => exact ih
  | comment _ _ oneLine _ _ ih => exact List.forall_mem_cons.mpr ⟨oneLine, ih⟩
  | string _ _ isLead _ closes _ ih =>
      refine List.forall_mem_cons.mpr ⟨⟨?_, content_of_closes closes⟩, ih⟩
      intro c member
      rw [← isLead] at member
      exact mem_leadChars_of_mem_leadBefore member
  | unclosed => exact List.forall_mem_cons.mpr ⟨trivial, by simp⟩

/-- A comment that a scan finds lies on one line. -/
theorem oneLine_of_mem_scan (separate : profile.Separate) {source : List Char} {start stop : Nat}
    (found : .comment start stop ∈ scan profile source) : '\n' ∉ slice source start stop := by
  rcases exists_piece_of_mem_scan separate found with
    ⟨pieces, tail, before, after, piece, pieceMem, cut, rfl, isSpan⟩
  have reads := cut.reads piece pieceMem
  cases isToken : piece.token with
  | comment body =>
      rw [isToken] at isSpan reads
      cases isSpan
      have isBody : slice (before ++ (body ++ after)) before.length
          (before.length + body.length) = body := slice_of_append rfl rfl
      rw [Token.text, isBody]
      exact reads
  | string =>
      rw [isToken] at isSpan
      contradiction
  | unclosed =>
      rw [isToken] at isSpan
      contradiction

/-- What a scan says of a terminated literal. -/
theorem content_of_mem_scan (separate : profile.Separate) {source : List Char} {literal : Literal}
    (found : .string literal ∈ scan profile source) (terminated : literal.terminated = true) :
    literal.quote ∈ profile.quoteChars ∧ (∀ c ∈ literal.lead, c ∈ profile.leadChars)
      ∧ Content (delimiterOf literal.quote literal.triple)
        (literal.lead.any profile.rawChars.contains)
        (slice source literal.contentStart literal.contentStop) := by
  rcases exists_piece_of_mem_scan separate found with
    ⟨pieces, tail, before, after, piece, pieceMem, cut, rfl, isSpan⟩
  have fits := cut.fits piece pieceMem
  have reads := cut.reads piece pieceMem
  have inner := Token.content?_span profile.commentMarker piece.token after (Eq.refl before.length)
  rw [← isSpan, Span.content?, if_pos terminated] at inner
  cases isToken : piece.token with
  | comment body =>
      rw [isToken] at isSpan
      contradiction
  | string lead quote triple content =>
      rw [isToken] at isSpan fits reads inner
      rw [Option.some.inj inner]
      cases isSpan
      exact ⟨fits, reads⟩
  | unclosed lead quote triple body =>
      rw [isToken] at isSpan
      cases isSpan
      contradiction

end Scans

end CodeGloss.Scan
