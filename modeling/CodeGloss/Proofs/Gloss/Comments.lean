import CodeGloss.Glossary.Vocabulary
import CodeGloss.Proofs.Gloss.PassagePatch
import CodeGloss.Proofs.Gloss.ScannedPatch
import CodeGloss.Proofs.Glossary.Frame
import CodeGloss.Proofs.Scan.WholeLiteral
import Mathlib.Data.List.Chain

/-!
# Comments in glossed code

What is inserted into a comment is not escaped, so the comment can end where the
insertion does not mean it to. A line comment goes on as long as no insertion brings in
a line break. A block comment goes on up to its closer as long as no insertion has a
closer in it, or half of one at an end.
-/

namespace CodeGloss.Gloss

open Glossary Scan Syntax Text

/-- The text is a comment that starts with the marker and takes no line break. -/
def IsLineComment (marker text : List Char) : Prop :=
  marker <+: text ∧ '\n' ∉ text

/-- The text is a comment between an opener and a closer, and behind the opener there is
no closer before the one at the end. -/
def IsBlockComment (text : List Char) : Prop :=
  ∃ body, text = blockOpener ++ (body ++ blockCloser) ∧ ¬ blockCloser <:+: body

instance (marker text : List Char) : Decidable (IsLineComment marker text) :=
  inferInstanceAs (Decidable (marker <+: text ∧ '\n' ∉ text))

theorem isLineComment_append {marker body : List Char} (markerOneLine : '\n' ∉ marker)
    (oneLine : '\n' ∉ body) : IsLineComment marker (marker ++ body) := by
  refine ⟨List.prefix_append marker body, fun member => ?_⟩
  rcases List.mem_append.mp member with inMarker | inBody
  · exact markerOneLine inMarker
  · exact oneLine inBody

/-- The translation has no closer of a block comment in it, nor half of one at an end. -/
structure SafeInBlockComment (translation : List Char) : Prop where
  noCloser : ¬ blockCloser <:+: translation
  noSlashFirst : translation.head? ≠ some '/'
  noStarLast : translation.getLast? ≠ some '*'

/-! ## Translated bodies -/

section Bodies

variable {entries : List Entry} {text out : List Char}

/-- No character and the one behind it are a closer. -/
def NoCloser (text : List Char) : Prop :=
  text.IsChain fun a b => ¬ (a = '*' ∧ b = '/')

theorem noCloser_iff : NoCloser text ↔ ¬ blockCloser <:+: text := by
  induction text with
  | nil => simp [NoCloser, blockCloser]
  | cons c text ih =>
      have first : ['/'] <+: text ↔ text.head? = some '/' := by
        cases text <;> simp [eq_comm]
      rw [NoCloser, List.isChain_cons, ← NoCloser, ih, List.infix_cons_iff, not_or, blockCloser,
        List.cons_prefix_cons, first]
      apply and_congr_left'
      constructor
      · rintro seam ⟨rfl, isFirst⟩
        exact seam '/' isFirst ⟨rfl, rfl⟩
      · rintro noMatch d isFirst ⟨rfl, rfl⟩
        exact noMatch ⟨rfl, isFirst⟩

theorem SafeInBlockComment.of_sameFrame (safe : SafeInBlockComment text)
    (same : SameFrame isMark text out) : SafeInBlockComment out where
  noCloser inside := by
    have isFixed : ∀ c ∈ blockCloser, isMark c = true :=
      List.forall_mem_cons.mpr ⟨by decide, List.forall_mem_singleton.mpr (by decide)⟩
    exact safe.noCloser (same.symm.contains_of_fixed isFixed inside)
  noSlashFirst first := safe.noSlashFirst (same.symm.head?_of_fixed (by decide) first)
  noStarLast last := safe.noStarLast (same.symm.getLast?_of_fixed (by decide) last)

/-- A substitution by safe texts makes no closer, and puts no slash first. -/
theorem noCloser_of_substitutes {m : Matcher} {replace : List Char → List Char}
    {before : Option Char}
    (safe : ∀ matched, replace matched ≠ [] ∧ SafeInBlockComment (replace matched))
    (run : m.Substitutes replace before text out) (noCloser : NoCloser text) :
    NoCloser out ∧ (out.head? = some '/' → text.head? = some '/') := by
  -- What is said of the first character is what the seam before it needs.
  induction run with
  | done before => exact ⟨noCloser, id⟩
  | @keep before c rest out _ _ ih =>
      rcases List.isChain_cons.mp noCloser with ⟨seam, noCloserRest⟩
      rcases ih noCloserRest with ⟨noCloserOut, first⟩
      refine ⟨List.isChain_cons.mpr ⟨?_, noCloserOut⟩, id⟩
      rintro d isFirst ⟨rfl, rfl⟩
      exact seam '/' (first isFirst) ⟨rfl, rfl⟩
  | @hit before matched rest out _ _ _ ih =>
      rcases List.isChain_append.mp noCloser with ⟨_, noCloserRest, _⟩
      rcases ih noCloserRest with ⟨noCloserOut, _⟩
      rcases safe matched with ⟨nonempty, inserted⟩
      constructor
      · refine List.isChain_append.mpr ⟨noCloser_iff.mpr inserted.noCloser, noCloserOut, ?_⟩
        rintro c isLast d _ ⟨rfl, _⟩
        exact inserted.noStarLast isLast
      · intro first
        rw [List.head?_append_of_ne_nil _ nonempty] at first
        exact absurd first inserted.noSlashFirst

/-- A dictionary of safe translations makes no closer in a body. -/
theorem noCloser_translate
    (nonempty : ∀ entry ∈ entries, entry.key ≠ [] ∧ entry.translation ≠ [])
    (safe : ∀ entry ∈ entries, SafeInBlockComment entry.translation) (noCloser : NoCloser text) :
    NoCloser (translate entries text) := by
  apply translateEscaped_induction NoCloser _ noCloser
  intro entry member text noCloser
  rcases nonempty entry member with ⟨key, translation⟩
  have run := (Matcher.substitutes_iff (m := entry.matcher) key).mpr
    (Eq.refl (entry.apply id text))
  refine (noCloser_of_substitutes (fun matched => ?_) run noCloser).1
  exact ⟨matchCase_ne_nil matched translation,
    (safe entry member).of_sameFrame (sameFrame_matchCase entry.translation matched)⟩

/-- A dictionary without line breaks in its translations brings none into a body. -/
theorem oneLine_translate (safe : ∀ entry ∈ entries, '\n' ∉ entry.translation)
    (oneLine : '\n' ∉ text) : '\n' ∉ translate entries text := by
  apply not_mem_translateEscaped oneLine
  intro entry member sample inside
  exact safe entry member (mem_of_mem_matchCase inside (by decide))

end Bodies

/-! ## Comments of a scan -/

/-- The comments that are glossed in scanned source have the marker and no line break,
before and after. -/
theorem isLineComment_of_glossScanned {entries : List Entry}
    (safe : ∀ entry ∈ entries, '\n' ∉ entry.translation) (source language : List Char) :
    ∃ result, glossScanned {} source entries language = .ok result
      ∧ ∀ s ∈ result.segments, s.kind = .comment →
        IsLineComment ['#'] s.source ∧ IsLineComment ['#'] s.translated := by
  rcases exists_glossScanned separate_default source entries language with
    ⟨result, finished, segments, _⟩
  refine ⟨result, finished, fun s member isComment => ?_⟩
  rw [segments] at member
  rcases exists_span_of_mem_spanSegments member with ⟨span, found, isSegment⟩
  rcases spanSegment?_eq_some_iff.mp isSegment with ⟨content, isContent, _, rfl⟩
  cases span with
  | string literal => contradiction
  | comment start stop =>
      have oneLine := oneLine_of_mem_scan separate_default found
      have shows : slice source start stop = ['#'] ++ content :=
        showsIn_of_mem_scan separate_default found content isContent
      rw [shows, List.mem_append, not_or] at oneLine
      exact ⟨isLineComment_append oneLine.1 oneLine.2,
        isLineComment_append oneLine.1 (oneLine_translate safe oneLine.2)⟩

/-! ## Comments of a parse -/

section Parsed

variable {entries : List Entry} {source : List Char}

/-- Of the offers for a range only those for comments have their kind. -/
theorem mem_markedCommentOffer?_of_kind {kind : PassageKind} {start stop : Nat} {offer : Offer}
    (member : offer ∈ rangeOffer? entries source kind start stop)
    (isComment : offer.kind = .comment) :
    offer ∈ markedCommentOffer? entries source start stop := by
  have notQuoted : ∀ escape, offer ∉ quotedOffer? entries escape source start stop := by
    intro escape isQuoted
    rw [kind_of_mem_quotedOffer? isQuoted] at isComment
    contradiction
  cases kind
  · exact absurd member (notQuoted _)
  · exact absurd member (notQuoted _)
  · rw [← Option.some.inj member] at isComment
    contradiction
  · rw [← Option.some.inj member] at isComment
    contradiction
  · exact member

/-- A comment of a parse is replaced between its markers. -/
theorem exists_markedCommentOffer? {p : Passage} {s : Segment}
    (isSegment : passageSegment? entries source p = some s) (isComment : s.kind = .comment) :
    ∃ start stop, ∃ offer ∈ markedCommentOffer? entries source start stop,
      s.source = slice source start stop ∧ s.translated = offer.text := by
  rcases Option.bind_eq_some_iff.mp isSegment with ⟨offer, isOffer, made⟩
  rcases Offer.segment?_eq_some_iff.mp made with ⟨rfl, _⟩
  rw [passageOffer?] at isOffer
  split at isOffer
  · rename_i start stop _ _
    rcases isFor_of_mem_rangeOffer? isOffer with ⟨rfl, rfl, _⟩
    exact ⟨_, _, offer, mem_markedCommentOffer?_of_kind isOffer isComment, rfl, rfl⟩
  · contradiction

theorem text_of_mem_commentOffer? {opener closer body : List Char} {start stop : Nat}
    {offer : Offer} (member : offer ∈ commentOffer? entries opener closer body start stop) :
    offer.text = opener ++ translate entries body ++ closer := by
  rw [commentOffer?, Option.mem_def, Option.ite_none_left_eq_some] at member
  rw [← Option.some.inj member.2]

/-- What stands for a line comment is the translation of what stands behind its marker. -/
theorem text_of_lineComment {start stop : Nat} {offer : Offer}
    (member : offer ∈ markedCommentOffer? entries source start stop)
    (starts : lineMarker <+: slice source start stop) :
    offer.text = lineMarker ++ translate entries ((slice source start stop).drop 2) := by
  rw [markedCommentOffer?, if_pos (List.isPrefixOf_iff_prefix.mpr starts)] at member
  rw [text_of_mem_commentOffer? member, List.append_nil]

/-- What stands for a block comment is the translation of its body. -/
theorem text_of_blockComment {start stop : Nat} {offer : Offer} {body : List Char}
    (member : offer ∈ markedCommentOffer? entries source start stop)
    (whole : slice source start stop = blockOpener ++ (body ++ blockCloser)) :
    offer.text = blockOpener ++ (translate entries body ++ blockCloser) := by
  have isBody : slice (blockOpener ++ (body ++ blockCloser)) 2
      ((blockOpener ++ (body ++ blockCloser)).length - 2) = body := by
    apply slice_of_append
    · rfl
    · simp only [List.length_append, blockOpener, blockCloser, List.length_cons, List.length_nil]
      omega
  have notLine : ¬ lineMarker.isPrefixOf (blockOpener ++ (body ++ blockCloser)) = true := by
    simp [lineMarker, blockOpener, List.isPrefixOf]
  have isBlock : blockOpener.isPrefixOf (blockOpener ++ (body ++ blockCloser))
      ∧ blockCloser.isSuffixOf (blockOpener ++ (body ++ blockCloser))
      ∧ 4 ≤ (blockOpener ++ (body ++ blockCloser)).length := by
    refine ⟨?_, ?_, ?_⟩
    · rw [List.isPrefixOf_iff_prefix]
      exact List.prefix_append _ _
    · rw [List.isSuffixOf_iff_suffix, ← List.append_assoc]
      exact List.suffix_append _ _
    · simp [blockOpener, blockCloser]
  simp only [markedCommentOffer?, whole] at member
  rw [if_neg notLine, if_pos isBlock, isBody] at member
  rw [text_of_mem_commentOffer? member, List.append_assoc]

end Parsed

/-! ## Dictionaries -/

/-- Under a dictionary without line breaks in its translations, the comments of scanned
source and the line comments of parsed source stay on their line. Under a dictionary of
translations that are safe there, block comments go on up to their closer and no
further. -/
theorem comments_stay_comments (terms : List Term) (vocabulary : Vocabulary) :
    ((∀ entry ∈ dictionaryOf terms vocabulary, '\n' ∉ entry.translation) →
        (∀ source language, ∃ result,
          glossScanned {} source (dictionaryOf terms vocabulary) language = .ok result
            ∧ ∀ s ∈ result.segments, s.kind = .comment →
              IsLineComment ['#'] s.source ∧ IsLineComment ['#'] s.translated)
        ∧ ∀ source passages language result,
          glossPassages source passages (dictionaryOf terms vocabulary) language = .ok result →
            ∀ s ∈ result.segments, s.kind = .comment →
              IsLineComment lineMarker s.source → IsLineComment lineMarker s.translated)
      ∧ ((∀ entry ∈ dictionaryOf terms vocabulary, SafeInBlockComment entry.translation) →
        ∀ source passages language result,
          glossPassages source passages (dictionaryOf terms vocabulary) language = .ok result →
            ∀ s ∈ result.segments, s.kind = .comment →
              IsBlockComment s.source → IsBlockComment s.translated) := by
  constructor
  · intro oneLine
    refine ⟨isLineComment_of_glossScanned oneLine, ?_⟩
    intro source passages language result glossed s member isComment isLine
    rcases exists_passage_of_mem_segments glossed member with ⟨p, _, isSegment⟩
    rcases exists_markedCommentOffer? isSegment isComment with
      ⟨start, stop, offer, isOffer, isSource, isTranslated⟩
    rw [isSource] at isLine
    rw [isTranslated, text_of_lineComment isOffer isLine.1]
    apply isLineComment_append (by decide) (oneLine_translate oneLine _)
    exact fun inBody => isLine.2 (List.mem_of_mem_drop inBody)
  · intro safe source passages language result glossed s member isComment isBlock
    rcases exists_passage_of_mem_segments glossed member with ⟨p, _, isSegment⟩
    rcases exists_markedCommentOffer? isSegment isComment with
      ⟨start, stop, offer, isOffer, isSource, isTranslated⟩
    rw [isSource] at isBlock
    rcases isBlock with ⟨body, whole, noCloser⟩
    rw [isTranslated, text_of_blockComment isOffer whole]
    refine ⟨_, rfl, ?_⟩
    rw [← noCloser_iff] at noCloser ⊢
    exact noCloser_translate (fun entry => ne_nil_of_mem_dictionaryOf) safe noCloser

/-- The halves of a closer may stand apart within a translation. -/
theorem comments_stay_comments_halves :
    let entries := dictionaryOf [] [("user".toList, .text "x/*y".toList)]
    let source := "// user\n/*user*/".toList
    let passages : List Passage := [⟨.comment, 0, 7⟩, ⟨.comment, 8, 16⟩]
    (∃ result, glossScanned {} "# user".toList entries "python".toList = .ok result
      ∧ ∀ s ∈ result.segments, s.kind = .comment →
        IsLineComment ['#'] s.source ∧ IsLineComment ['#'] s.translated)
    ∧ ∃ result, glossPassages source passages entries "js".toList = .ok result
      ∧ ∀ s ∈ result.segments, s.kind = .comment →
        (IsLineComment lineMarker s.source → IsLineComment lineMarker s.translated)
          ∧ (IsBlockComment s.source → IsBlockComment s.translated) := by
  intro entries source passages
  have only : entries = [⟨"user".toList, "x/*y".toList⟩] := by decide +kernel
  have oneLine : ∀ entry ∈ entries, '\n' ∉ entry.translation := by
    rw [only, List.forall_mem_singleton]
    decide
  have safe : ∀ entry ∈ entries, SafeInBlockComment entry.translation := by
    rw [only, List.forall_mem_singleton]
    exact ⟨by decide, by decide, by decide⟩
  have stay := comments_stay_comments [] [("user".toList, .text "x/*y".toList)]
  rcases stay.1 oneLine with ⟨scanned, parsedLines⟩
  refine ⟨scanned _ _, ?_⟩
  have keys : ∀ entry ∈ entries, entry.key ≠ [] :=
    fun entry member => (ne_nil_of_mem_dictionaryOf member).1
  have lie : ∀ p ∈ passages, LiesIn source p :=
    List.forall_mem_cons.mpr ⟨⟨by decide, by decide⟩,
      List.forall_mem_singleton.mpr ⟨by decide, by decide⟩⟩
  have apart : passages.Pairwise Passage.Apart := List.pairwise_pair.mpr (.inl (by decide))
  rcases exists_glossPassages keys lie apart "js".toList with ⟨result, glossed, _, _⟩
  exact ⟨result, glossed, fun s member isComment => ⟨parsedLines _ _ _ _ glossed s member isComment,
    stay.2 safe _ _ _ _ glossed s member isComment⟩⟩

/-- A line break in a translation puts the rest of it on a line of its own, behind the
comment. -/
theorem not_isLineComment_glossScanned :
    let entries := dictionaryOf [] [("welcome".toList, .text "línea\nnueva".toList)]
    ∃ result ∈ (glossScanned {} "# welcome".toList entries "python".toList).toOption,
      result.code = "# línea\nnueva".toList
        ∧ ∃ s ∈ result.segments, s.kind = .comment ∧ IsLineComment ['#'] s.source
          ∧ ¬ IsLineComment ['#'] s.translated := by
  decide +kernel

end CodeGloss.Gloss
