import CodeGloss.Proofs.Gloss.ScannedTokens
import CodeGloss.Proofs.Gloss.Unchanged
import CodeGloss.Proofs.Glossary.Settled

/-!
# A second pass over glossed source

A settled dictionary without quotes, backslashes and line breaks leaves the tokens
of a source where they are and has nothing to do in their translated contents. So
its own output comes back from it unchanged.
-/

namespace CodeGloss.Gloss

open Glossary Scan Text

theorem isTokenMark_of_isWord {c : Char} (word : isWord c = true) : isTokenMark c = false := by
  have noWords : ['\'', '"', '\\', '\n'].all (fun c => !isWord c) = true := by decide +kernel
  rw [Bool.eq_false_iff]
  intro mark
  have isMark : c ∈ ['\'', '"', '\\', '\n'] := by
    simpa [isTokenMark, or_assoc] using mark
  have noWord := List.all_eq_true.mp noWords c isMark
  rw [word] at noWord
  contradiction

/-- The content of a token is part of its text. -/
theorem mem_text_of_mem_content? {token : Token} {marker content : List Char} {c : Char}
    (isContent : content ∈ token.content? marker) (member : c ∈ content) : c ∈ token.text := by
  cases token with
  | comment body =>
      cases isContent
      exact List.mem_of_mem_drop member
  | string lead quote triple inner =>
      cases isContent
      simp [Token.text, member]
  | unclosed lead quote triple body => contradiction

/-- What is not in a source is not in the content of a piece of it. -/
theorem not_mem_content_of_cut {source tail : List Char} {pieces : List Piece} {c : Char}
    (cut : Cut {} [] [] source pieces tail) (absent : c ∉ source) {piece : Piece}
    (isPiece : piece ∈ pieces) {marker content : List Char}
    (isContent : content ∈ piece.token.content? marker) : c ∉ content := by
  intro member
  apply absent
  rw [← cut.source_eq]
  apply List.mem_append_left
  refine List.mem_flatMap.mpr ⟨piece, isPiece, ?_⟩
  exact List.mem_append_right piece.gap (mem_text_of_mem_content? isContent member)

/-- If the changed contents of a source are their own translations, the code made of them is
returned as it came. -/
theorem glossScanned_of_change {entries : List Entry} {code tail : List Char}
    {pieces : List Piece} (avoid : ∀ entry ∈ entries, entry.Avoids isTokenMark)
    (cut : Cut {} [] [] code (pieces.map (Piece.change ['#'] (translate entries))) tail)
    (settled : ∀ piece ∈ pieces, ∀ content ∈ piece.token.content? ['#'],
      translate entries (translate entries content) = translate entries content)
    (language : List Char) :
    glossScanned {} code entries language = .ok (.unchanged language code) := by
  apply glossScanned_of_unchanged
  intro span member content isContent
  rcases cut.exists_parts_of_mem_scan member with ⟨front, piece, behind, parts, isCode, rfl⟩
  have isPiece : piece ∈ pieces.map (Piece.change ['#'] (translate entries)) := by
    rw [parts]
    exact List.mem_append_right front List.mem_cons_self
  rw [translateEscaped_spanEscape avoid (cut.fits piece isPiece)]
  rw [isCode, Token.content?_span _ _ _ rfl] at isContent
  rcases List.mem_map.mp isPiece with ⟨source, isSource, rfl⟩
  rw [Piece.change, Token.content?_change, Option.mem_def, Option.map_eq_some_iff] at isContent
  rcases isContent with ⟨content, isContent, rfl⟩
  exact settled source isSource content isContent

/-- Suppose that the keys of a dictionary are words, that its translations have no quote, no
backslash and no line break, and that no entry changes a translation in upper case, in lower
case or with a capital. Then glossing the code of a glossed source gives this code again, without a
segment, for a scanned source as for plain text. -/
theorem gloss_twice {terms : List Term} {vocabulary : Vocabulary}
    (words : ∀ entry ∈ dictionaryOf terms vocabulary, ∀ c ∈ entry.key, isWord c = true)
    (plain : ∀ entry ∈ dictionaryOf terms vocabulary,
      ∀ c ∈ entry.translation, c ≠ '\'' ∧ c ≠ '"' ∧ c ≠ '\\' ∧ c ≠ '\n')
    (forms : ∀ entry ∈ dictionaryOf terms vocabulary,
      ∀ other ∈ dictionaryOf terms vocabulary, ∀ form ∈ other.forms, entry.apply id form = form)
    {source : List Char} (noIota : iotaSubscript ∉ source) (language : List Char) :
    (∃ first, glossScanned {} source (dictionaryOf terms vocabulary) language = .ok first
      ∧ glossScanned {} first.code (dictionaryOf terms vocabulary) language =
        .ok (.unchanged language first.code))
    ∧ glossWhole (glossWhole source (dictionaryOf terms vocabulary) language).code
        (dictionaryOf terms vocabulary) language =
      ⟨language, (glossWhole source (dictionaryOf terms vocabulary) language).code, true, [], 0, 0⟩ := by
  have settled : Settled (dictionaryOf terms vocabulary) :=
    ⟨fun entry member => ⟨(ne_nil_of_mem_dictionaryOf member).1, words entry member⟩, forms⟩
  have avoid : ∀ entry ∈ dictionaryOf terms vocabulary, entry.Avoids isTokenMark := by
    intro entry member
    rcases ne_nil_of_mem_dictionaryOf member with ⟨keyContent, translationContent⟩
    refine ⟨keyContent, translationContent, ?_, ?_⟩
    · exact fun c inKey => isTokenMark_of_isWord (words entry member c inKey)
    · intro c inTranslation
      have differs := plain entry member c inTranslation
      simp [isTokenMark, differs]
  constructor
  · rcases exists_cut_source separate_default source with ⟨pieces, tail, cut⟩
    rcases exists_glossScanned_of_cut avoid cut language with ⟨first, finished, cut'⟩
    refine ⟨first, finished, glossScanned_of_change avoid cut' ?_ language⟩
    intro piece isPiece content isContent
    exact settled.translate_translate (not_mem_content_of_cut cut noIota isPiece isContent)
  · exact glossWhole_of_unchanged language (settled.translate_translate noIota)

/-- In the built-in dictionary a word may be its own translation, and a translation may have
several words. -/
theorem gloss_twice_builtIn :
    let entries := dictionaryOf [] builtInVocabulary
    let source := "log('Timeout\\'s error') # TERMS".toList
    (∀ entry ∈ entries, ∀ c ∈ entry.key, isWord c = true)
    ∧ (∀ entry ∈ entries, ∀ c ∈ entry.translation, c ≠ '\'' ∧ c ≠ '"' ∧ c ≠ '\\' ∧ c ≠ '\n')
    ∧ (∀ entry ∈ entries, ∀ other ∈ entries, ∀ form ∈ other.forms, entry.apply id form = form)
    ∧ iotaSubscript ∉ source
    ∧ (∃ first, glossScanned {} source entries "python".toList = .ok first
      ∧ glossScanned {} first.code entries "python".toList =
        .ok (.unchanged "python".toList first.code))
    ∧ glossWhole (glossWhole source entries "python".toList).code entries "python".toList =
      ⟨"python".toList, (glossWhole source entries "python".toList).code, true, [], 0, 0⟩ := by
  intro entries source
  have settled : Settled entries := settled_builtIn
  have noMarks : ((candidates [] builtInVocabulary).filterMap Candidate.entry?).all (fun entry =>
      entry.translation.all fun c => !isTokenMark c) = true := by
    decide +kernel
  have words : ∀ entry ∈ entries, ∀ c ∈ entry.key, isWord c = true :=
    fun entry member => (settled.words entry member).word
  have plain : ∀ entry ∈ entries,
      ∀ c ∈ entry.translation, c ≠ '\'' ∧ c ≠ '"' ∧ c ≠ '\\' ∧ c ≠ '\n' := by
    intro entry member c inside
    have free := List.all_eq_true.mp noMarks entry (mem_proposed_of_mem_dictionaryOf member)
    simpa [isTokenMark, and_assoc] using List.all_eq_true.mp free c inside
  have noIota : iotaSubscript ∉ source := by decide
  exact ⟨words, plain, settled.forms, noIota,
    gloss_twice words plain settled.forms noIota "python".toList⟩

end CodeGloss.Gloss
