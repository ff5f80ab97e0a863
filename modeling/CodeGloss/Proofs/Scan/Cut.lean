import CodeGloss.Proofs.Scan.Content

/-!
# How a scan cuts a text

A scan names places. Here the same scan is told by the pieces into which the text
falls: each comment or literal, with the text between it and the one before. A
cut is derived rule by rule, like the scan goes, so a fact about all scans is
proved with one case for each rule.

The pieces put together are the text, and for a profile whose marks do not get into
each other's way every text can be cut.
-/

namespace CodeGloss.Scan

open Text

/-! ## Pieces -/

/-- What a scan finds, without its place. -/
inductive Token where
  | comment (body : List Char)
  | string (lead : List Char) (quote : Char) (triple : Bool) (content : List Char)
  /-- A literal without a closing delimiter. -/
  | unclosed (lead : List Char) (quote : Char) (triple : Bool) (body : List Char)
  deriving DecidableEq, Repr

def Token.text : Token → List Char
  | comment body => body
  | string lead quote triple content =>
      lead ++ (delimiterOf quote triple ++ (content ++ delimiterOf quote triple))
  | unclosed lead quote triple body => lead ++ (delimiterOf quote triple ++ body)

/-- The span of a token that starts at a place. -/
def Token.span (start : Nat) : Token → Span
  | comment body => .comment start (start + body.length)
  | string lead quote triple content =>
      let inner := start + lead.length + (delimiterOf quote triple).length
      .string ⟨start, inner + content.length + (delimiterOf quote triple).length, inner,
        inner + content.length, lead, quote, triple, true⟩
  | unclosed lead quote triple body =>
      let inner := start + lead.length + (delimiterOf quote triple).length
      .string ⟨start, inner + body.length, inner, inner, lead, quote, triple, false⟩

/-- A token and the text between it and the token before. -/
structure Piece where
  gap : List Char
  token : Token
  deriving DecidableEq, Repr

def Piece.text (piece : Piece) : List Char :=
  piece.gap ++ piece.token.text

/-- The text of pieces put together. -/
def textOf (pieces : List Piece) : List Char :=
  pieces.flatMap Piece.text

@[simp]
theorem textOf_nil : textOf [] = [] :=
  rfl

@[simp]
theorem textOf_cons (piece : Piece) (pieces : List Piece) :
    textOf (piece :: pieces) = piece.gap ++ (piece.token.text ++ textOf pieces) := by
  simp [textOf, Piece.text]

/-- The spans of pieces that start at a place. -/
def spansFrom (place : Nat) : List Piece → List Span
  | [] => []
  | piece :: pieces =>
      piece.token.span (place + piece.gap.length) :: spansFrom (place + piece.text.length) pieces

/-! ## The letters before a quote -/

theorem takeWhile_append_cons {α : Type} {p : α → Bool} {c : α} (front rest : List α)
    (stops : p c = false) : (front ++ c :: rest).takeWhile p = front.takeWhile p := by
  induction front with
  | nil => simp [stops]
  | cons x front ih =>
      rw [List.cons_append, List.takeWhile_cons, List.takeWhile_cons, ih]

/-- What lies behind a character that is no lead letter does not matter. -/
theorem leadBefore_append_cons {profile : Profile} {c : Char} (noLead : c ∉ profile.leadChars)
    (front rest other : List Char) :
    leadBefore profile (front ++ c :: rest) = leadBefore profile (front ++ c :: other) := by
  have stops : profile.leadChars.contains c = false := by simpa using noLead
  have within : (front.takeWhile profile.leadChars.contains).length ≤ front.length :=
    (List.takeWhile_prefix _).length_le
  simp only [leadBefore, takeWhile_append_cons front _ stops]
  rw [List.drop_append_of_le_length within, List.drop_append_of_le_length within]
  cases front.drop (front.takeWhile profile.leadChars.contains).length <;> rfl

theorem starts_reverse_leadBefore (profile : Profile) (passed : List Char) :
    (leadBefore profile passed).reverse <+: passed := by
  simp only [leadBefore]
  split
  · exact List.nil_prefix
  · rw [List.reverse_reverse]
    exact List.takeWhile_prefix _

theorem length_leadBefore_append_cons_le {profile : Profile} {c : Char}
    (noLead : c ∉ profile.leadChars) (front rest : List Char) :
    (leadBefore profile (front ++ c :: rest)).length ≤ front.length := by
  have stops : profile.leadChars.contains c = false := by simpa using noLead
  simp only [leadBefore, takeWhile_append_cons front _ stops]
  split
  · exact Nat.zero_le _
  · rw [List.length_reverse]
    exact (List.takeWhile_prefix _).length_le

/-! ## Cuts -/

section Cuts

variable {profile : Profile}

/-- Behind `gap`, which lies behind `before`, a text falls into pieces and a last
gap. What is passed is listed nearest character first. -/
inductive Cut (profile : Profile) :
    List Char → List Char → List Char → List Piece → List Char → Prop
  | done (before gap : List Char) : Cut profile before gap [] [] gap.reverse
  | pass {before gap rest tail : List Char} {c : Char} {pieces : List Piece}
      (noMarker : ¬ profile.commentMarker <+: c :: rest) (noQuote : c ∉ profile.quoteChars)
      (next : Cut profile before (c :: gap) rest pieces tail) :
      Cut profile before gap (c :: rest) pieces tail
  | comment {before gap body rest tail : List Char} {pieces : List Piece}
      (marker : profile.commentMarker <+: body) (nonempty : body ≠ [])
      (oneLine : '\n' ∉ body) (lineEnd : ∀ c ∈ rest.head?, c = '\n')
      (next : Cut profile (body.reverse ++ (gap ++ before)) [] rest pieces tail) :
      Cut profile before gap (body ++ rest) (⟨gap.reverse, .comment body⟩ :: pieces) tail
  | string {before free lead content rest tail : List Char} {quote : Char} {triple : Bool}
      {pieces : List Piece}
      (noMarker : ¬ profile.commentMarker <+:
        delimiterOf quote triple ++ (content ++ (delimiterOf quote triple ++ rest)))
      (isQuote : quote ∈ profile.quoteChars)
      (isLead : leadBefore profile (lead.reverse ++ (free ++ before)) = lead)
      (opens : [quote, quote].isPrefixOf
        (delimiterOf quote triple ++ (content ++ (delimiterOf quote triple ++ rest))).tail = triple)
      (closes : contentLength? (delimiterOf quote triple) (lead.any profile.rawChars.contains)
        (content ++ (delimiterOf quote triple ++ rest)) = some content.length)
      (next : Cut profile
        ((delimiterOf quote triple ++ (content ++ delimiterOf quote triple)).reverse
          ++ (lead.reverse ++ (free ++ before))) [] rest pieces tail) :
      Cut profile before (lead.reverse ++ free)
        (delimiterOf quote triple ++ (content ++ (delimiterOf quote triple ++ rest)))
        (⟨free.reverse, .string lead quote triple content⟩ :: pieces) tail
  | unclosed {before free lead body : List Char} {quote : Char} {triple : Bool}
      (noMarker : ¬ profile.commentMarker <+: delimiterOf quote triple ++ body)
      (isQuote : quote ∈ profile.quoteChars)
      (isLead : leadBefore profile (lead.reverse ++ (free ++ before)) = lead)
      (opens : [quote, quote].isPrefixOf (delimiterOf quote triple ++ body).tail = triple)
      (staysOpen : contentLength? (delimiterOf quote triple)
        (lead.any profile.rawChars.contains) body = none) :
      Cut profile before (lead.reverse ++ free) (delimiterOf quote triple ++ body)
        [⟨free.reverse, .unclosed lead quote triple body⟩] []

/-- The pieces and the last gap put together are the text. -/
theorem Cut.textOf_append {before gap text tail : List Char} {pieces : List Piece}
    (cut : Cut profile before gap text pieces tail) :
    textOf pieces ++ tail = gap.reverse ++ text := by
  induction cut with
  | done before gap => simp
  | pass _ _ _ ih => simpa using ih
  | comment _ _ _ _ _ ih =>
      rw [textOf_cons, List.append_assoc, List.append_assoc, ih]
      rfl
  | string _ _ _ _ _ _ ih =>
      rw [textOf_cons, List.append_assoc, List.append_assoc, ih]
      simp [Token.text]
  | unclosed => simp [Token.text]

/-! ## Texts that can be cut -/

/-- The marks of a profile are told apart: a comment marker has no line break, and no
quote and no line break is taken for a lead letter or for the other. -/
structure Profile.Separate (profile : Profile) : Prop where
  marker_ne_nil : profile.commentMarker ≠ []
  marker_oneLine : '\n' ∉ profile.commentMarker
  quote_noLead : ∀ quote ∈ profile.quoteChars, quote ∉ profile.leadChars
  line_noLead : '\n' ∉ profile.leadChars
  line_noQuote : '\n' ∉ profile.quoteChars

theorem eq_of_mem_quoteChars {quote : Char} (isQuote : quote ∈ ({} : Profile).quoteChars) :
    quote = '\'' ∨ quote = '"' := by
  simpa using isQuote

theorem isWord_of_mem_quoteChars {quote : Char} (isQuote : quote ∈ ({} : Profile).quoteChars) :
    isWord quote = false := by
  rcases eq_of_mem_quoteChars isQuote with rfl | rfl <;> decide

theorem separate_default : ({} : Profile).Separate := by
  constructor
  · exact List.cons_ne_nil _ _
  · decide
  · exact List.forall_mem_cons.mpr ⟨by decide, List.forall_mem_singleton.mpr (by decide)⟩
  · decide
  · decide

/-- However the text goes on, letters before a quote do not reach behind the gap. -/
def LeadFits (profile : Profile) (before gap : List Char) : Prop :=
  ∀ front, (leadBefore profile (front ++ (gap ++ before))).length ≤ (front ++ gap).length

theorem leadFits_cons {before gap : List Char} (c : Char) (fits : LeadFits profile before gap) :
    LeadFits profile before (c :: gap) := by
  intro front
  have step := fits (front ++ [c])
  rw [List.append_assoc, List.append_assoc] at step
  exact step

theorem leadFits_nil (profile : Profile) : LeadFits profile [] [] := by
  intro front
  rw [← List.length_reverse, List.append_nil, List.append_nil]
  exact (starts_reverse_leadBefore profile front).length_le

theorem leadFits_of_noLead {c : Char} (noLead : c ∉ profile.leadChars) (before gap : List Char) :
    LeadFits profile (c :: before) gap := by
  intro front
  rw [← List.append_assoc]
  exact length_leadBefore_append_cons_le noLead (front ++ gap) before

/-- A comment marker lies on the line on which it starts. -/
theorem Profile.Separate.marker_prefix_line (separate : profile.Separate) {text : List Char}
    (marker : profile.commentMarker <+: text) :
    profile.commentMarker <+: text.takeWhile (· != '\n') := by
  rcases marker with ⟨behind, rfl⟩
  rw [List.takeWhile_append_of_pos]
  · exact List.prefix_append _ _
  · intro c member
    rw [bne_iff_ne]
    rintro rfl
    exact separate.marker_oneLine member

theorem line_not_mem_takeWhile (text : List Char) : '\n' ∉ text.takeWhile (· != '\n') := by
  have all := List.all_takeWhile (p := (· != '\n')) (l := text)
  intro member
  simpa using List.all_eq_true.mp all _ member

theorem dropWhile_head_eq_line (text : List Char) :
    ∀ c ∈ (text.dropWhile (· != '\n')).head?, c = '\n' := by
  intro c first
  have stopped := List.head?_dropWhile_not (· != '\n') text
  rw [first] at stopped
  simpa using stopped

/-- Where a comment starts, it takes the rest of the line. -/
theorem Profile.Separate.exists_comment (separate : profile.Separate) {text : List Char}
    (marker : profile.commentMarker <+: text) :
    ∃ body rest, text = body ++ rest ∧ profile.commentMarker <+: body ∧ body ≠ []
      ∧ '\n' ∉ body ∧ ∀ c ∈ rest.head?, c = '\n' := by
  have starts := separate.marker_prefix_line marker
  refine ⟨text.takeWhile (· != '\n'), text.dropWhile (· != '\n'),
    List.takeWhile_append_dropWhile.symm, starts, ?_, line_not_mem_takeWhile text,
    dropWhile_head_eq_line text⟩
  intro empty
  rw [empty, List.prefix_nil] at starts
  exact separate.marker_ne_nil starts

theorem LeadFits.exists_lead {before gap : List Char} (fits : LeadFits profile before gap) :
    ∃ lead free, gap = lead.reverse ++ free
      ∧ leadBefore profile (lead.reverse ++ (free ++ before)) = lead := by
  have within := fits []
  rw [List.nil_append, List.nil_append, ← List.length_reverse] at within
  rcases List.prefix_of_prefix_length_le (starts_reverse_leadBefore profile (gap ++ before))
    (List.prefix_append gap before) within with ⟨free, isGap⟩
  refine ⟨leadBefore profile (gap ++ before), free, isGap.symm, ?_⟩
  rw [← List.append_assoc, isGap]

/-- A quote opens a literal with one quote or with three. -/
theorem exists_opening (quote : Char) (rest : List Char) :
    ∃ triple inner, quote :: rest = delimiterOf quote triple ++ inner
      ∧ [quote, quote].isPrefixOf (delimiterOf quote triple ++ inner).tail = triple := by
  cases opens : [quote, quote].isPrefixOf rest with
  | false => exact ⟨false, rest, rfl, opens⟩
  | true =>
      have starts := opens
      rw [List.isPrefixOf_iff_prefix] at starts
      rcases starts with ⟨inner, rfl⟩
      exact ⟨true, inner, rfl, opens⟩

/-- Seen from behind, a literal starts with its quote. -/
theorem exists_reverse_append_delimiterOf (inside : List Char) (quote : Char) (triple : Bool) :
    ∃ more, (inside ++ delimiterOf quote triple).reverse = quote :: more := by
  rcases delimiterOf_eq_cons quote triple with ⟨more, isDelimiter⟩
  have mirrored : (delimiterOf quote triple).reverse = quote :: more := by
    rw [delimiterOf, List.reverse_replicate, ← delimiterOf, isDelimiter]
  rw [List.reverse_append, mirrored]
  exact ⟨_, rfl⟩

theorem getLast?_append_delimiterOf (inside : List Char) (quote : Char) (triple : Bool) :
    (inside ++ delimiterOf quote triple).getLast? = some quote := by
  rcases exists_reverse_append_delimiterOf inside quote triple with ⟨more, mirrored⟩
  rw [List.getLast?_eq_head?_reverse, mirrored, List.head?_cons]

theorem leadFits_of_quote (separate : profile.Separate) {quote : Char}
    (isQuote : quote ∈ profile.quoteChars) (triple : Bool) (inside passed : List Char) :
    LeadFits profile ((inside ++ delimiterOf quote triple).reverse ++ passed) [] := by
  rcases exists_reverse_append_delimiterOf inside quote triple with ⟨more, mirrored⟩
  rw [mirrored]
  exact leadFits_of_noLead (separate.quote_noLead quote isQuote) _ []

/-- Every text can be cut. The line break behind a comment and the quote behind a
literal keep the letters before a later quote from reaching back into them. -/
theorem exists_cut (separate : profile.Separate) {before gap text : List Char}
    (fits : LeadFits profile before gap ∨ gap = [] ∧ ∀ c ∈ text.head?, c = '\n') :
    ∃ pieces tail, Cut profile before gap text pieces tail := by
  induction size : text.length using Nat.strongRecOn generalizing before gap text with
  | ind size ih =>
      subst size
      cases text with
      | nil => exact ⟨[], gap.reverse, .done before gap⟩
      | cons c rest =>
          by_cases marker : profile.commentMarker <+: c :: rest
          · rcases separate.exists_comment marker with
              ⟨body, after, parts, starts, nonempty, oneLine, lineEnd⟩
            have shorter := congrArg List.length parts
            have positive := List.length_pos_iff.mpr nonempty
            rw [List.length_append] at shorter
            have behind : LeadFits profile (body.reverse ++ (gap ++ before)) []
                ∨ ([] : List Char) = [] ∧ ∀ c ∈ after.head?, c = '\n' := .inr ⟨rfl, lineEnd⟩
            rcases ih after.length (by omega) behind rfl with ⟨pieces, tail, next⟩
            rw [parts]
            exact ⟨_, tail, .comment starts nonempty oneLine lineEnd next⟩
          · by_cases isQuote : c ∈ profile.quoteChars
            · have fits' : LeadFits profile before gap := by
                rcases fits with fits | ⟨_, lineEnd⟩
                · exact fits
                · rw [lineEnd c rfl] at isQuote
                  exact absurd isQuote separate.line_noQuote
              rcases fits'.exists_lead with ⟨lead, free, rfl, isLead⟩
              rcases exists_opening c rest with ⟨triple, inner, isText, opens⟩
              rw [isText] at marker ih ⊢
              cases closes : contentLength? (delimiterOf c triple)
                  (lead.any profile.rawChars.contains) inner with
              | none => exact ⟨_, [], .unclosed marker isQuote isLead opens closes⟩
              | some length =>
                  rcases exists_content_of_contentLength? closes with
                    ⟨content, after, rfl, rfl, _⟩
                  rcases delimiterOf_eq_cons c triple with ⟨more, isDelimiter⟩
                  have positive : 0 < (delimiterOf c triple).length := by
                    rw [isDelimiter]
                    exact Nat.succ_pos _
                  have behind := leadFits_of_quote separate isQuote triple
                    (delimiterOf c triple ++ content) (lead.reverse ++ (free ++ before))
                  rw [List.append_assoc (delimiterOf c triple)] at behind
                  rcases ih after.length
                    (by simp only [List.length_append]; omega) (.inl behind) rfl with
                    ⟨pieces, tail, next⟩
                  exact ⟨_, tail, .string marker isQuote isLead opens closes next⟩
            · have fits' : LeadFits profile before (c :: gap) := by
                rcases fits with fits | ⟨rfl, lineEnd⟩
                · exact leadFits_cons c fits
                · intro front
                  rw [lineEnd c rfl]
                  have within := length_leadBefore_append_cons_le separate.line_noLead front before
                  rw [List.length_append]
                  exact Nat.le_trans within (Nat.le_add_right _ _)
              rcases ih rest.length (Nat.lt_succ_self _) (.inl fits') rfl with
                ⟨pieces, tail, next⟩
              exact ⟨pieces, tail, .pass marker isQuote next⟩

end Cuts

end CodeGloss.Scan
