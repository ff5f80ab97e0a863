import CodeGloss.Glossary.Vocabulary
import CodeGloss.Proofs.Gloss.Escaping
import CodeGloss.Proofs.Gloss.ScannedPatch
import CodeGloss.Proofs.Glossary.Dictionary
import CodeGloss.Proofs.Scan.Change

/-!
# The tokens of a glossed source

A dictionary without quotes, backslashes and line breaks does not disturb the
tokens of a scanned source: the code is scanned into the same comments and
literals with the same gaps between them, and the contents are the translations of
the contents of the source.
-/

namespace CodeGloss.Gloss

open Glossary Scan Text

/-- The characters by which a scan is steered within a token. -/
def isTokenMark (c : Char) : Bool :=
  c == '\'' || c == '"' || c == '\\' || c == '\n'

theorem isMark_of_isTokenMark (c : Char) (isToken : isTokenMark c = true) : isMark c = true := by
  simp only [isTokenMark, Bool.or_eq_true, beq_iff_eq] at isToken
  rcases isToken with ((rfl | rfl) | rfl) | rfl <;> decide

theorem isTokenMark_of_quote {quote : Char} (isQuote : quote ∈ ({} : Profile).quoteChars) :
    isTokenMark quote = true := by
  rcases eq_of_mem_quoteChars isQuote with rfl | rfl <;> rfl

/-! ## Translations as changes of contents -/

section Changes

variable {entries : List Entry} {entry : Entry}

theorem keepsContents_apply (avoids : entry.Avoids isTokenMark) :
    KeepsContents {} (entry.apply id) where
  nil_iff text := (avoids.sameFrame_apply isMark_of_isTokenMark text).eq_nil_iff.symm
  oneLine text oneLine := by
    rwa [← (avoids.sameFrame_apply isMark_of_isTokenMark text).mem_iff (by decide)]
  content quote isQuote triple raw text isContent :=
    isContent.of_sameFrame (isTokenMark_of_quote isQuote) (by decide)
      (avoids.sameFrame_apply isMark_of_isTokenMark text)

theorem keepsContents_translate (avoid : ∀ entry ∈ entries, entry.Avoids isTokenMark) :
    KeepsContents {} (translate entries) := by
  induction entries with
  | nil => exact keepsContents_id {}
  | cons entry entries ih =>
      rcases List.forall_mem_cons.mp avoid with ⟨first, rest⟩
      exact (ih rest).comp (keepsContents_apply first)

/-- What such a dictionary inserts into a literal needs no escape. -/
theorem translateEscaped_literalEscape (avoid : ∀ entry ∈ entries, entry.Avoids isTokenMark)
    {literal : Literal} (isQuote : literal.quote ∈ ({} : Profile).quoteChars)
    (text : List Char) :
    translateEscaped entries (literalEscape literal) text = translate entries text := by
  apply translateEscaped_congr
  intro entry member sample
  have free := (avoid entry member).matchCase_free isMark_of_isTokenMark sample
  have noBackslash : '\\' ∉ matchCase entry.translation sample :=
    fun inside => absurd (free _ inside) (by decide)
  have noQuote : literal.quote ∉ matchCase entry.translation sample := by
    intro inside
    have isFree := free _ inside
    rw [isTokenMark_of_quote isQuote] at isFree
    contradiction
  unfold literalEscape
  split
  · exact Escape.inTripleQuotes_of_not_mem noBackslash noQuote
  · exact Escape.inQuotes_of_not_mem noBackslash noQuote

/-- Within a token it makes no difference whether insertions are escaped. -/
theorem translateEscaped_spanEscape (avoid : ∀ entry ∈ entries, entry.Avoids isTokenMark)
    {token : Token} (fits : token.Fits {}) (start : Nat) (text : List Char) :
    translateEscaped entries (spanEscape (token.span start)) text = translate entries text := by
  cases token with
  | comment body => rfl
  | string lead quote triple content =>
      apply translateEscaped_literalEscape avoid
      exact fits
  | unclosed lead quote triple body =>
      apply translateEscaped_literalEscape avoid
      exact fits

end Changes

/-! ## The code of pieces -/

section Pieces

variable {entries : List Entry} {source : List Char}

theorem text_change (profile : Profile) {token : Token} (turn : List Char → List Char)
    {content : List Char} (isContent : content ∈ token.content? profile.commentMarker)
    (start : Nat) :
    (token.change profile.commentMarker turn).text =
      (token.span start).around profile.commentMarker (turn content) := by
  cases token with
  | comment body =>
      cases isContent
      rfl
  | string lead quote triple inner =>
      cases isContent
      simp only [Token.change, Token.span, Span.around, Token.text, Literal.delimiter_eq,
        List.append_assoc]
  | unclosed lead quote triple body => contradiction

theorem weave_token {profile : Profile} {token : Token} (fits : token.Fits profile)
    {turn : List Char → List Char} {before after code : List Char} {segments : List Segment}
    (agree : ∀ content, translateEscaped entries (spanEscape (token.span before.length)) content =
      turn content)
    (next : Weave (before.length + token.text.length) segments after code) :
    Weave before.length
      ((spanSegment? profile.commentMarker entries (before ++ (token.text ++ after))
        (token.span before.length)).toList ++ segments)
      (token.text ++ after) ((token.change profile.commentMarker turn).text ++ code) := by
  have isContent := Token.content?_span profile.commentMarker token after
    (Eq.refl before.length)
  cases isSome : token.content? profile.commentMarker with
  | none =>
      rw [isSome] at isContent
      rw [spanSegment?, isContent]
      cases token with
      | comment => contradiction
      | string => contradiction
      | unclosed lead quote triple body => exact next.keepAll
  | some content =>
      rw [isSome] at isContent
      have around := fits.around_span before.length isSome
      have around' := text_change profile turn isSome before.length
      rw [spanSegment?_of_content isContent, agree]
      by_cases same : turn content = content
      · rw [if_pos same, around', same, around]
        exact next.keepAll
      · rw [if_neg same, around', around, Token.start_span, Token.stop_span]
        have stop : ((before.length + token.text.length : Nat) : Int) =
            before.length + token.text.length := Int.natCast_add _ _
        exact .swap rfl stop next

theorem filterMap_cons_eq_append {α β : Type} (f : α → Option β) (item : α) (items : List α) :
    (item :: items).filterMap f = (f item).toList ++ items.filterMap f := by
  cases isSome : f item <;> simp [isSome]

/-- The translation of the content of a token, with the escape that its delimiters ask for. -/
def tokenTranslation (entries : List Entry) (token : Token) : List Char → List Char :=
  translateEscaped entries (spanEscape (token.span 0))

/-- The piece with its content translated. -/
def glossedPiece (marker : List Char) (entries : List Entry) (piece : Piece) : Piece :=
  piece.change marker (tokenTranslation entries piece.token)

theorem spanEscape_span (token : Token) (start : Nat) :
    spanEscape (token.span start) = spanEscape (token.span 0) := by
  cases token <;> rfl

/-- Replacing the segments of the spans translates the contents of the pieces. -/
theorem weave_pieces (profile : Profile) (entries : List Entry) (before tail : List Char)
    {pieces : List Piece} (fits : ∀ piece ∈ pieces, piece.token.Fits profile) :
    Weave before.length
      ((spansFrom before.length pieces).filterMap
        (spanSegment? profile.commentMarker entries (before ++ (textOf pieces ++ tail))))
      (textOf pieces ++ tail)
      (textOf (pieces.map (glossedPiece profile.commentMarker entries)) ++ tail) := by
  induction pieces generalizing before with
  | nil => exact .refl _ tail
  | cons piece pieces ih =>
      have next := ih (before ++ piece.text) fun later member =>
        fits later (List.mem_cons_of_mem piece member)
      have agree : ∀ content,
          translateEscaped entries (spanEscape (piece.token.span (before ++ piece.gap).length))
              content =
            tokenTranslation entries piece.token content := by
        intro content
        rw [spanEscape_span]
        rfl
      have stop : (before ++ piece.text).length =
          (before ++ piece.gap).length + piece.token.text.length := by
        rw [Piece.text, List.length_append, List.length_append, List.length_append, Nat.add_assoc]
      rw [stop] at next
      have first := weave_token (fits piece List.mem_cons_self) agree next
      rw [← append_gap_append, ← append_textOf_cons, List.length_append, ← filterMap_cons_eq_append]
        at first
      have pieceStop : before.length + piece.text.length =
          before.length + piece.gap.length + piece.token.text.length := by
        rw [Piece.text, List.length_append, Nat.add_assoc]
      have whole := first.keepAll
      rw [spansFrom, pieceStop, List.map_cons, textOf_cons, textOf_cons, List.append_assoc,
        List.append_assoc, List.append_assoc, List.append_assoc]
      rw [textOf_cons, List.append_assoc, List.append_assoc] at whole
      exact whole

/-- The code is made of the pieces of the source, with their contents translated. -/
theorem exists_glossScanned_textOf {profile : Profile} (separate : profile.Separate)
    {tail : List Char} {pieces : List Piece} (cut : Cut profile [] [] source pieces tail)
    (entries : List Entry) (language : List Char) :
    ∃ result, glossScanned profile source entries language = .ok result
      ∧ result.code =
        textOf (pieces.map (glossedPiece profile.commentMarker entries)) ++ tail
      ∧ IsExactPatch source result := by
  rcases exists_glossScanned separate source entries language with
    ⟨result, finished, segments, weave, isPatch⟩
  refine ⟨result, finished, ?_, isPatch⟩
  have isCode := weave.applyEach_edit [] rfl
  rw [segments, spanSegments, scan_of_cut cut] at isCode
  have weavePieces := weave_pieces profile entries [] tail cut.fits
  rw [List.nil_append, cut.source_eq] at weavePieces
  exact isCode.symm.trans (weavePieces.applyEach_edit [] rfl)

/-- The code has the pieces of the source with the contents translated, and is cut into them. -/
theorem exists_glossScanned_of_cut {tail : List Char} {pieces : List Piece}
    (avoid : ∀ entry ∈ entries, entry.Avoids isTokenMark)
    (cut : Cut {} [] [] source pieces tail) (language : List Char) :
    ∃ result, glossScanned {} source entries language = .ok result
      ∧ Cut {} [] [] result.code (pieces.map (Piece.change ['#'] (translate entries))) tail := by
  rcases exists_glossScanned_textOf separate_default cut entries language with
    ⟨result, finished, isCode, _⟩
  have samePieces : pieces.map (glossedPiece ['#'] entries) =
      pieces.map (Piece.change ['#'] (translate entries)) := by
    apply List.map_congr_left
    intro piece member
    have same : tokenTranslation entries piece.token = translate entries :=
      funext (translateEscaped_spanEscape avoid (cut.fits piece member) 0)
    rw [glossedPiece, same]
  have alike : Alike {} [] [] [] source := .inl fun _ => rfl
  rcases cut.change plain_default (keepsContents_translate avoid) alike with ⟨code, cut', _⟩
  have sameCode : result.code = code := by
    rw [isCode, samePieces, cut'.source_eq]
  rw [← sameCode] at cut'
  exact ⟨result, finished, cut'⟩

end Pieces

/-- If no key and no translation of a dictionary has a quote, a backslash or a line
break, the code of a scanned source is scanned into the same tokens as the source.
The text between them is the same, and each content is the translation of the one
in its place. -/
theorem scan_glossScanned {terms : List Term} {vocabulary : Vocabulary}
    (harmless : ∀ entry ∈ dictionaryOf terms vocabulary,
      ∀ c ∈ entry.key ++ entry.translation, c ≠ '\'' ∧ c ≠ '"' ∧ c ≠ '\\' ∧ c ≠ '\n')
    (source language : List Char) :
    ∃ result, glossScanned {} source (dictionaryOf terms vocabulary) language = .ok result
      ∧ (scan {} result.code).map Span.form = (scan {} source).map Span.form
      ∧ gapsFrom result.code 0 (scan {} result.code) = gapsFrom source 0 (scan {} source)
      ∧ (scan {} result.code).map (Span.content? ['#'] result.code) =
        (scan {} source).map fun span =>
          (span.content? ['#'] source).map (translate (dictionaryOf terms vocabulary)) := by
  have avoid : ∀ entry ∈ dictionaryOf terms vocabulary, entry.Avoids isTokenMark := by
    intro entry member
    have free : ∀ c ∈ entry.key ++ entry.translation, isTokenMark c = false := by
      intro c inside
      have differs := harmless entry member c inside
      simp [isTokenMark, differs]
    rcases List.forall_mem_append.mp free with ⟨keyFree, translationFree⟩
    rcases ne_nil_of_mem_dictionaryOf member with ⟨keyContent, translationContent⟩
    exact ⟨keyContent, translationContent, keyFree, translationFree⟩
  rcases exists_cut_source separate_default source with ⟨pieces, tail, cut⟩
  rcases exists_glossScanned_of_cut avoid cut language with ⟨result, finished, cut'⟩
  refine ⟨result, finished, ?_, ?_, ?_⟩
  · rw [cut.map_form_scan, cut'.map_form_scan, List.map_map]
    apply List.map_congr_left
    intro piece _
    exact Token.form_change _ _ _
  · rw [cut.gapsFrom_scan, cut'.gapsFrom_scan, List.map_map]
    rfl
  · rw [cut'.map_content?_scan, List.map_map]
    have contents := congrArg (List.map (Option.map (translate (dictionaryOf terms vocabulary))))
      (cut.map_content?_scan ['#'])
    rw [List.map_map, List.map_map] at contents
    refine Eq.trans ?_ contents.symm
    apply List.map_congr_left
    intro piece _
    exact Token.content?_change _ _ _

/-- The built-in vocabulary has no such character, and a literal that is raw, one that
stays open and a comment with a quote come out as tokens of their form. -/
theorem scan_glossScanned_builtIn :
    let entries := dictionaryOf [] builtInVocabulary
    let source := "x = rb'user\\' # the user's\ny = 'error\\'".toList
    (∀ entry ∈ entries,
      ∀ c ∈ entry.key ++ entry.translation, c ≠ '\'' ∧ c ≠ '"' ∧ c ≠ '\\' ∧ c ≠ '\n')
    ∧ ∃ result, glossScanned {} source entries "python".toList = .ok result
      ∧ (scan {} result.code).map Span.form = (scan {} source).map Span.form
      ∧ gapsFrom result.code 0 (scan {} result.code) = gapsFrom source 0 (scan {} source)
      ∧ (scan {} result.code).map (Span.content? ['#'] result.code) =
        (scan {} source).map fun span =>
          (span.content? ['#'] source).map (translate entries) := by
  intro entries source
  have proposed : ((candidates [] builtInVocabulary).filterMap Candidate.entry?).all (fun entry =>
      (entry.key ++ entry.translation).all fun c => !isTokenMark c) = true := by
    decide +kernel
  have harmless : ∀ entry ∈ entries,
      ∀ c ∈ entry.key ++ entry.translation, c ≠ '\'' ∧ c ≠ '"' ∧ c ≠ '\\' ∧ c ≠ '\n' := by
    intro entry member c inside
    have free := List.all_eq_true.mp proposed entry (mem_proposed_of_mem_dictionaryOf member)
    simpa [isTokenMark, and_assoc] using List.all_eq_true.mp free c inside
  exact ⟨harmless, scan_glossScanned harmless source "python".toList⟩

end CodeGloss.Gloss
