import CodeGloss.Proofs.Gloss.ScannedTokens
import CodeGloss.Proofs.Gloss.Unchanged

/-!
# Changes do not cancel out

A segment may be longer in the code than in the source and the next one shorter, so code
with segments might still be the source. It is not, if no key has a quote or a line break.
Then no translation takes a quote or a line break away, and in code that is the source none
is added either, not even within one token. So each literal ends at the same quote, and each
comment before the same line break, in the code as in the source.
-/

namespace CodeGloss.Gloss

open Glossary Scan Text

/-! ## Parts of equal texts -/

section Parts

variable {p : Char → Bool} {front rest front' rest' : List Char}

theorem eq_nil_of_countP_append (count : (front ++ rest).countP p = front.countP p)
    (ends : (∀ c ∈ (front ++ rest).getLast?, p c = true) ∨ ∀ c ∈ rest.head?, p c = true) :
    rest = [] := by
  rw [List.countP_append, Nat.add_eq_left, List.countP_eq_zero] at count
  cases rest with
  | nil => rfl
  | cons c rest =>
      rcases ends with last | first
      · rw [List.getLast?_append, List.getLast?_eq_some_getLast (List.cons_ne_nil c rest),
          Option.some_or] at last
        exact absurd (last _ rfl) (count _ (List.getLast_mem _))
      · exact absurd (first c rfl) (count c List.mem_cons_self)

/-- Two texts are the same up to a place with the same count of some characters before it, if
one of these characters is the last before that place, or the first behind it, in both. -/
theorem eq_of_append_eq_append (same : front ++ rest = front' ++ rest')
    (count : front.countP p = front'.countP p)
    (ends : (∀ c ∈ front.getLast?, p c = true) ∧ (∀ c ∈ front'.getLast?, p c = true)
      ∨ (∀ c ∈ rest.head?, p c = true) ∧ ∀ c ∈ rest'.head?, p c = true) : front = front' := by
  rcases List.append_eq_append_iff.mp same with ⟨more, rfl, rfl⟩ | ⟨more, rfl, rfl⟩
  · have empty : more = [] := by
      apply eq_nil_of_countP_append count.symm
      rcases ends with ⟨_, last⟩ | ⟨first, _⟩
      · exact .inl last
      · right
        intro c isFirst
        apply first
        rw [List.head?_append, isFirst]
        rfl
    rw [empty, List.append_nil]
  · have empty : more = [] := by
      apply eq_nil_of_countP_append count
      rcases ends with ⟨last, _⟩ | ⟨_, first⟩
      · exact .inl last
      · right
        intro c isFirst
        apply first
        rw [List.head?_append, isFirst]
        rfl
    rw [empty, List.append_nil]

end Parts

/-! ## Pieces that grow -/

section Pieces

variable {profile : Profile} {entries : List Entry} {p : Char → Bool}

/-- In no token does the translation of the content have fewer of some characters. -/
def NeverFewer (p : Char → Bool) (entries : List Entry) : Prop :=
  ∀ token content, content.countP p ≤ (tokenTranslation entries token content).countP p

theorem countP_token_le (grows : NeverFewer p entries) {piece : Piece}
    (fits : piece.token.Fits profile) :
    piece.token.text.countP p ≤
      (glossedPiece profile.commentMarker entries piece).token.text.countP p := by
  rcases piece with ⟨gap, token⟩
  cases token with
  | comment body =>
      rcases fits.1 with ⟨inner, rfl⟩
      simp only [glossedPiece, Piece.change, Token.change, Token.text, List.drop_left,
        List.countP_append]
      exact Nat.add_le_add_left (grows _ inner) _
  | string lead quote triple content =>
      have more := grows (.string lead quote triple content) content
      simp only [glossedPiece, Piece.change, Token.change, Token.text, List.countP_append]
      omega
  | unclosed lead quote triple body => exact Nat.le.refl

theorem countP_textOf_le (grows : NeverFewer p entries) {pieces : List Piece}
    (fits : ∀ piece ∈ pieces, piece.token.Fits profile) :
    (textOf pieces).countP p ≤
      (textOf (pieces.map (glossedPiece profile.commentMarker entries))).countP p := by
  induction pieces with
  | nil => exact Nat.le.refl
  | cons piece pieces ih =>
      rcases List.forall_mem_cons.mp fits with ⟨first, later⟩
      have inToken := countP_token_le grows first
      have inRest := ih later
      rw [List.map_cons, textOf_cons, textOf_cons]
      simp only [List.countP_append]
      have sameGap : (glossedPiece profile.commentMarker entries piece).gap = piece.gap := rfl
      rw [sameGap]
      omega

theorem head?_token (markerContent : profile.commentMarker ≠ []) (entries : List Entry)
    {piece : Piece} (fits : piece.token.Fits profile) (rest rest' : List Char) :
    ((glossedPiece profile.commentMarker entries piece).token.text ++ rest').head? =
      (piece.token.text ++ rest).head? := by
  rcases piece with ⟨gap, token⟩
  cases token with
  | comment body =>
      rcases fits.1 with ⟨inner, rfl⟩
      rcases List.exists_cons_of_ne_nil markerContent with ⟨mark, marker, isMarker⟩
      simp [glossedPiece, Piece.change, Token.change, Token.text, isMarker]
  | string lead quote triple content =>
      rcases delimiterOf_eq_cons quote triple with ⟨more, isDelimiter⟩
      cases lead <;> simp [glossedPiece, Piece.change, Token.change, Token.text, isDelimiter]
  | unclosed lead quote triple body =>
      rcases delimiterOf_eq_cons quote triple with ⟨more, isDelimiter⟩
      cases lead <;> simp [glossedPiece, Piece.change, Token.change, Token.text, isDelimiter]

/-- Glossing does not change the first character. -/
theorem head?_textOf (markerContent : profile.commentMarker ≠ []) (entries : List Entry)
    {pieces : List Piece} (fits : ∀ piece ∈ pieces, piece.token.Fits profile)
    (tail : List Char) :
    (textOf (pieces.map (glossedPiece profile.commentMarker entries)) ++ tail).head? =
      (textOf pieces ++ tail).head? := by
  cases pieces with
  | nil => rfl
  | cons piece pieces =>
      have sameToken := head?_token markerContent entries
        (fits piece List.mem_cons_self) (textOf pieces ++ tail)
        (textOf (pieces.map (glossedPiece profile.commentMarker entries)) ++ tail)
      rw [List.map_cons, textOf_cons, textOf_cons, List.append_assoc, List.append_assoc,
        List.append_assoc, List.append_assoc, List.head?_append, sameToken]
      exact List.head?_append.symm

/-- A token is known by its text once its other parts are. -/
theorem change_eq_of_text {marker : List Char} {turn : List Char → List Char} {token : Token}
    (same : (token.change marker turn).text = token.text) : token.change marker turn = token := by
  cases token with
  | comment body => exact congrArg Token.comment same
  | string lead quote triple content =>
      have inner := List.append_cancel_left (List.append_cancel_left same)
      exact congrArg (Token.string lead quote triple) (List.append_cancel_right inner)
  | unclosed lead quote triple body => rfl

/-- If the glossed pieces make up the text of the pieces, the first piece is its own gloss,
provided that its end is marked: by its own last character, or by the one behind it. -/
theorem glossedPiece_eq_of_same (grows : NeverFewer p entries) {piece : Piece}
    {pieces : List Piece} {tail : List Char}
    (fits : ∀ piece' ∈ piece :: pieces, piece'.token.Fits profile)
    (ends :
      let glossed := glossedPiece profile.commentMarker entries
      (∀ c ∈ (glossed piece).token.text.getLast?, p c = true)
        ∧ (∀ c ∈ piece.token.text.getLast?, p c = true)
      ∨ (∀ c ∈ (textOf (pieces.map glossed) ++ tail).head?, p c = true)
        ∧ ∀ c ∈ (textOf pieces ++ tail).head?, p c = true)
    (same : textOf ((piece :: pieces).map (glossedPiece profile.commentMarker entries)) ++ tail =
      textOf (piece :: pieces) ++ tail) :
    glossedPiece profile.commentMarker entries piece = piece
      ∧ textOf (pieces.map (glossedPiece profile.commentMarker entries)) ++ tail =
        textOf pieces ++ tail := by
  rcases List.forall_mem_cons.mp fits with ⟨first, later⟩
  rw [List.map_cons, textOf_cons, textOf_cons, List.append_assoc, List.append_assoc,
    List.append_assoc, List.append_assoc] at same
  have sameBehind := List.append_cancel_left same
  have inToken := countP_token_le grows first
  have inRest := countP_textOf_le grows later
  have total := congrArg (List.countP p) sameBehind
  simp only [List.countP_append] at total
  have sameText := eq_of_append_eq_append sameBehind (by omega) ends
  rw [sameText] at sameBehind
  constructor
  · exact congrArg (Piece.mk piece.gap) (change_eq_of_text sameText)
  · exact List.append_cancel_left sameBehind

/-- The characters at which tokens end. -/
structure EndsTokens (profile : Profile) (p : Char → Bool) : Prop where
  quote : ∀ quote ∈ profile.quoteChars, p quote = true
  line : p '\n' = true

/-- If the glossed pieces make up the text of the pieces, each piece is its own gloss. -/
theorem forall_glossedPiece_eq (separate : profile.Separate) (ends : EndsTokens profile p)
    (grows : NeverFewer p entries) {before gap text tail : List Char} {pieces : List Piece}
    (cut : Cut profile before gap text pieces tail)
    (same : textOf (pieces.map (glossedPiece profile.commentMarker entries)) ++ tail =
      textOf pieces ++ tail) :
    ∀ piece ∈ pieces, glossedPiece profile.commentMarker entries piece = piece := by
  induction cut with
  | done => simp
  | pass _ _ _ ih => exact ih same
  | @comment before gap body rest tail pieces marker nonempty oneLine lineEnd next ih =>
      have fits := (Cut.comment marker nonempty oneLine lineEnd next).fits
      have behind : ∀ c ∈ (textOf pieces ++ tail).head?, p c = true := by
        intro c first
        rw [next.textOf_append] at first
        rw [lineEnd c first]
        exact ends.line
      have glossedBehind := behind
      rw [← head?_textOf separate.marker_ne_nil entries next.fits] at glossedBehind
      rcases glossedPiece_eq_of_same grows fits (.inr ⟨glossedBehind, behind⟩) same with
        ⟨isPiece, sameRest⟩
      exact List.forall_mem_cons.mpr ⟨isPiece, ih sameRest⟩
  | @string before free lead content rest tail quote triple pieces noMarker isQuote isLead opens
      closes next ih =>
      have fits := (Cut.string noMarker isQuote isLead opens closes next).fits
      have last : ∀ inside,
          ∀ c ∈ (Token.string lead quote triple inside).text.getLast?, p c = true := by
        intro inside c isLast
        rw [Token.text, ← List.append_assoc, ← List.append_assoc, getLast?_append_delimiterOf]
          at isLast
        cases isLast
        exact ends.quote quote isQuote
      rcases glossedPiece_eq_of_same grows fits (.inl ⟨last _, last content⟩) same with
        ⟨isPiece, sameRest⟩
      exact List.forall_mem_cons.mpr ⟨isPiece, ih sameRest⟩
  | unclosed => exact List.forall_mem_singleton.mpr rfl

end Pieces

/-! ## Scanned sources -/

/-- The characters at which comments and literals end. -/
def isTokenEnd (c : Char) : Bool :=
  c == '\'' || c == '"' || c == '\n'

theorem isMark_of_isTokenEnd (c : Char) (isEnd : isTokenEnd c = true) : isMark c = true := by
  simp only [isTokenEnd, Bool.or_eq_true, beq_iff_eq] at isEnd
  rcases isEnd with (rfl | rfl) | rfl <;> decide

theorem endsTokens_isTokenEnd : EndsTokens {} isTokenEnd where
  quote quote isQuote := by
    rcases eq_of_mem_quoteChars isQuote with rfl | rfl <;> rfl
  line := rfl

/-- If the pieces of a source are their own glosses, the source is returned as it came. -/
theorem glossScanned_of_glossedPiece {profile : Profile} {entries : List Entry}
    {source tail : List Char} {pieces : List Piece} (cut : Cut profile [] [] source pieces tail)
    (kept : ∀ piece ∈ pieces, glossedPiece profile.commentMarker entries piece = piece)
    (language : List Char) :
    glossScanned profile source entries language = .ok (.unchanged language source) := by
  apply glossScanned_of_unchanged
  intro span member content isContent
  rcases cut.exists_parts_of_mem_scan member with ⟨front, piece, behind, parts, isSource, rfl⟩
  rw [isSource, Token.content?_span _ _ _ rfl, Option.mem_def] at isContent
  have sameToken := congrArg Piece.token (kept piece (by simp [parts]))
  have sameContent := congrArg (Token.content? profile.commentMarker) sameToken
  rw [glossedPiece, Piece.change, Token.content?_change, isContent, Option.map_some,
    Option.some.injEq] at sameContent
  rw [spanEscape_span]
  exact sameContent

/-- If no key has a quote or a line break, a glossed source is changed if and only if its code is
another text than the source. -/
theorem changed_glossScanned_iff {entries : List Entry}
    (keys : ∀ entry ∈ entries, ∀ c ∈ entry.key, c ≠ '\'' ∧ c ≠ '"' ∧ c ≠ '\n')
    (source language : List Char) :
    ∃ result, glossScanned {} source entries language = .ok result
      ∧ (result.changed = true ↔ result.code ≠ source) := by
  have keysFree : ∀ entry ∈ entries, ∀ c ∈ entry.key, isTokenEnd c = false := by
    intro entry member c inKey
    have differs := keys entry member c inKey
    simp [isTokenEnd, differs]
  have grows : NeverFewer isTokenEnd entries := fun token content =>
    countP_le_countP_translateEscaped isMark_of_isTokenEnd keysFree _ content
  rcases exists_cut_source separate_default source with ⟨pieces, tail, cut⟩
  rcases exists_glossScanned_textOf separate_default cut entries language with
    ⟨result, finished, isCode, isPatch⟩
  refine ⟨result, finished, ?_, ?_⟩
  · intro changed same
    rw [isCode, ← cut.source_eq] at same
    have kept := forall_glossedPiece_eq separate_default endsTokens_isTokenEnd grows cut same
    have unchanged := glossScanned_of_glossedPiece cut kept language
    rw [finished, Except.ok.injEq] at unchanged
    rw [unchanged, GlossedCode.changed_unchanged] at changed
    contradiction
  · intro differs
    rw [GlossedCode.changed, Bool.not_eq_true', List.isEmpty_eq_false_iff]
    intro noSegments
    have applied := isPatch.applied
    rw [noSegments] at applied
    exact differs applied.symm

/-- The code of two literals is as long as the source, since what the first one gains the second
one loses. -/
theorem changed_glossScanned_iff_sameLength :
    let entries : List Entry :=
      [⟨"message".toList, "'m#".toList⟩, ⟨"user".toList, "usuario".toList⟩]
    let source := "log('user', 'message')".toList
    (∀ entry ∈ entries, ∀ c ∈ entry.key, c ≠ '\'' ∧ c ≠ '"' ∧ c ≠ '\n')
      ∧ ∃ result, glossScanned {} source entries "python".toList = .ok result
        ∧ (result.changed = true ↔ result.code ≠ source) := by
  intro entries source
  have free : (entries.all fun entry => entry.key.all fun c => !isTokenEnd c) = true := by decide
  have keys : ∀ entry ∈ entries, ∀ c ∈ entry.key, c ≠ '\'' ∧ c ≠ '"' ∧ c ≠ '\n' := by
    intro entry member c inKey
    have isFree := List.all_eq_true.mp (List.all_eq_true.mp free entry member) c inKey
    simpa [isTokenEnd, and_assoc] using isFree
  exact ⟨keys, changed_glossScanned_iff keys source "python".toList⟩

end CodeGloss.Gloss
