import CodeGloss.Gloss.Scanned
import CodeGloss.Proofs.Gloss.TripleQuotes
import CodeGloss.Proofs.Glossary.Dictionary
import CodeGloss.Proofs.Scan.WholeLiteral

/-!
# Literals in glossed code

A literal of the source is written with its letters and delimiters around its
translated content. What is written is read as one literal exactly if the translated
content is a content. Between tripled quotes every insertion is escaped, and a
dictionary of safe translations keeps the literal whole. In a raw literal the escape
has no effect for a reader, and the literal is whole as long as its quote does not
occur in what is inserted.
-/

namespace CodeGloss.Gloss

open Glossary Scan Text

/-- What is written in the place of a literal. -/
def glossedLiteral (entries : List Entry) (source : List Char) (literal : Literal) : List Char :=
  literal.lead ++ literal.delimiter
    ++ translateEscaped entries (literalEscape literal)
      (slice source literal.contentStart literal.contentStop)
    ++ literal.delimiter

/-- In every draft of the source, glossing the literal records this text in its place. -/
def RecordsLiteral (entries : List Entry) (source : List Char) (literal : Literal)
    (written : List Char) : Prop :=
  ∀ draft : Draft, draft.source = source → glossLiteral entries literal draft =
    draft.record .string literal.start literal.stop written

section Literals

variable {source : List Char} {literal : Literal}

theorem ne_backslash_of_quote {quote : Char} (isQuote : quote ∈ ({} : Profile).quoteChars) :
    quote ≠ '\\' := by
  rcases eq_of_mem_quoteChars isQuote with rfl | rfl <;> decide

theorem isMark_of_quote {quote : Char} (isQuote : quote ∈ ({} : Profile).quoteChars) :
    isMark quote = true := by
  rcases eq_of_mem_quoteChars isQuote with rfl | rfl <;> decide

/-- A terminated literal that a scan finds is replaced by its gloss. Without a match in it nothing
is recorded, and a record of the text that stands there is none. -/
theorem recordsLiteral_glossedLiteral (entries : List Entry)
    (found : .string literal ∈ scan {} source) (terminated : literal.terminated = true) :
    RecordsLiteral entries source literal (glossedLiteral entries source literal) := by
  rintro draft rfl
  have shows := showsIn_of_mem_scan separate_default found
    (slice draft.source literal.contentStart literal.contentStop)
    (by rw [Span.content?, if_pos terminated]; rfl)
  rw [glossLiteral, glossedLiteral]
  split
  · rename_i same
    have unchanged : draft.wouldChange literal.start literal.stop
        (literal.lead ++ literal.delimiter
          ++ slice draft.source literal.contentStart literal.contentStop
          ++ literal.delimiter) = false := by
      rw [Draft.wouldChange, bne_eq_false_iff_eq]
      exact shows
    rw [same, Draft.record, unchanged]
    rfl
  · rfl

/-- What is written is one literal exactly if the translated content is a content. -/
theorem isWholeLiteral_glossedLiteral_iff (entries : List Entry)
    (found : .string literal ∈ scan {} source) (terminated : literal.terminated = true) :
    IsWholeLiteral {} literal.lead literal.quote literal.triple
        (glossedLiteral entries source literal) ↔
      Content (delimiterOf literal.quote literal.triple)
        (literal.lead.any ({} : Profile).rawChars.contains)
        (translateEscaped entries (literalEscape literal)
          (slice source literal.contentStart literal.contentStop)) := by
  rcases content_of_mem_scan separate_default found terminated with ⟨isQuote, isLead, _⟩
  rw [glossedLiteral, Literal.delimiter_eq, List.append_assoc, List.append_assoc]
  exact isWholeLiteral_iff_content isLead (ne_backslash_of_quote isQuote)

end Literals

/-! ## Tripled quotes -/

/-- What replaces a literal between tripled quotes is whole under a dictionary of safe
translations, with its letters and its quote, if no key has the quote or a backslash. -/
theorem isWholeLiteral_glossedLiteral_of_triple {terms : List Term} {vocabulary : Vocabulary}
    {source : List Char} {literal : Literal} (found : .string literal ∈ scan {} source)
    (terminated : literal.terminated = true) (triple : literal.triple = true)
    (notRaw : literal.lead.any ({} : Profile).rawChars.contains = false)
    (keys : ∀ entry ∈ dictionaryOf terms vocabulary,
      literal.quote ∉ entry.key ∧ '\\' ∉ entry.key)
    (safe : ∀ entry ∈ dictionaryOf terms vocabulary,
      Escape.SafeInTripleQuotes literal.quote entry.translation) :
    RecordsLiteral (dictionaryOf terms vocabulary) source literal
        (glossedLiteral (dictionaryOf terms vocabulary) source literal)
      ∧ IsWholeLiteral {} literal.lead literal.quote true
        (glossedLiteral (dictionaryOf terms vocabulary) source literal) := by
  rcases content_of_mem_scan separate_default found terminated with ⟨isQuote, _, isContent⟩
  have differs := ne_backslash_of_quote isQuote
  have mark := isMark_of_quote isQuote
  have whole := isWholeLiteral_glossedLiteral_iff (dictionaryOf terms vocabulary) found terminated
  refine ⟨recordsLiteral_glossedLiteral _ found terminated, ?_⟩
  rw [triple, notRaw] at isContent whole
  rw [whole, literalEscape, if_pos triple, Escape.content_translateEscaped_iff differs mark _ safe]
  · exact isContent
  · intro entry member
    exact ⟨(ne_nil_of_mem_dictionaryOf member).1, keys entry member⟩

/-- Quotes within the translation, a backslash at its end and a backslash before the
match do no harm. -/
theorem isWholeLiteral_glossedLiteral_of_triple_seams :
    let entries := dictionaryOf [] [("user".toList, .text "a\"\"\"b\\".toList)]
    let source := "x = f\"\"\"\"user\" \\user\"\"\"".toList
    let literal : Literal := ⟨4, 23, 8, 20, ['f'], '"', true, true⟩
    .string literal ∈ scan {} source
      ∧ RecordsLiteral entries source literal (glossedLiteral entries source literal)
      ∧ IsWholeLiteral {} ['f'] '"' true (glossedLiteral entries source literal) := by
  intro entries source literal
  have only : entries = [⟨"user".toList, "a\"\"\"b\\".toList⟩] := by decide +kernel
  have found : .string literal ∈ scan {} source := by decide +kernel
  refine ⟨found, isWholeLiteral_glossedLiteral_of_triple found rfl rfl (by decide) ?_ ?_⟩
  · change ∀ entry ∈ entries, _
    rw [only, List.forall_mem_singleton]
    decide
  · change ∀ entry ∈ entries, _
    rw [only, List.forall_mem_singleton]
    exact ⟨by decide, by decide, 'a', by decide, by decide⟩

/-- A quote at the end of a translation joins the closing delimiter, and the literal ends
one character early. -/
theorem not_isWholeLiteral_glossedLiteral_triple :
    let entries := dictionaryOf [] [("user".toList, .text "say \"hi\"".toList)]
    let source := "x = \"\"\"user\"\"\"".toList
    let literal : Literal := ⟨4, 14, 7, 11, [], '"', true, true⟩
    .string literal ∈ scan {} source
      ∧ (∀ entry ∈ entries, '"' ∉ entry.key ∧ '\\' ∉ entry.key)
      ∧ glossedLiteral entries source literal = "\"\"\"say \"hi\"\"\"\"".toList
      ∧ ¬ IsWholeLiteral {} [] '"' true (glossedLiteral entries source literal) := by
  decide +kernel

/-! ## Raw literals -/

/-- What replaces a raw literal between single delimiters is whole exactly if its quote does
not stand in the translated content, and so under every dictionary without this quote in its
translations. -/
theorem isWholeLiteral_glossedLiteral_of_raw (entries : List Entry) {source : List Char}
    {literal : Literal} (found : .string literal ∈ scan {} source)
    (terminated : literal.terminated = true) (single : literal.triple = false)
    (raw : literal.lead.any ({} : Profile).rawChars.contains = true) :
    RecordsLiteral entries source literal (glossedLiteral entries source literal)
      ∧ (IsWholeLiteral {} literal.lead literal.quote false
          (glossedLiteral entries source literal) ↔
        literal.quote ∉ translateEscaped entries (literalEscape literal)
          (slice source literal.contentStart literal.contentStop))
      ∧ ((∀ entry ∈ entries, literal.quote ∉ entry.translation) →
        IsWholeLiteral {} literal.lead literal.quote false
          (glossedLiteral entries source literal)) := by
  rcases content_of_mem_scan separate_default found terminated with ⟨isQuote, _, isContent⟩
  have differs := ne_backslash_of_quote isQuote
  have mark := isMark_of_quote isQuote
  have whole := isWholeLiteral_glossedLiteral_iff entries found terminated
  rw [single, raw, content_raw_iff] at isContent whole
  refine ⟨recordsLiteral_glossedLiteral entries found terminated, whole,
    fun noQuote => whole.mpr (not_mem_translateEscaped isContent ?_)⟩
  intro entry member sample
  rw [literalEscape, single]
  exact Escape.quote_not_mem_inQuotes differs fun inside =>
    noQuote entry member (mem_of_mem_matchCase inside mark)

/-- A translation with the other quote and a backslash at its end. -/
theorem isWholeLiteral_glossedLiteral_of_raw_backslash :
    let entries := dictionaryOf [] [("user".toList, .text "\"l\\".toList)]
    let source := "x = Rb'user'".toList
    let literal : Literal := ⟨4, 12, 7, 11, ['R', 'b'], '\'', false, true⟩
    .string literal ∈ scan {} source
      ∧ RecordsLiteral entries source literal (glossedLiteral entries source literal)
      ∧ IsWholeLiteral {} ['R', 'b'] '\'' false (glossedLiteral entries source literal) := by
  intro entries source literal
  have only : entries = [⟨"user".toList, "\"l\\".toList⟩] := by decide +kernel
  have found : .string literal ∈ scan {} source := by decide +kernel
  have ⟨records, _, whole⟩ :=
    isWholeLiteral_glossedLiteral_of_raw entries found rfl rfl (by decide)
  refine ⟨found, records, whole ?_⟩
  rw [only, List.forall_mem_singleton]
  decide

/-- A raw literal does not heed the backslash that the escape puts before a quote. -/
theorem not_isWholeLiteral_glossedLiteral_raw :
    let entries := dictionaryOf [] [("user".toList, .text "l'user".toList)]
    let source := "x = r'user'".toList
    let literal : Literal := ⟨4, 11, 6, 10, ['r'], '\'', false, true⟩
    .string literal ∈ scan {} source
      ∧ glossedLiteral entries source literal = "r'l\\'user'".toList
      ∧ ¬ IsWholeLiteral {} ['r'] '\'' false (glossedLiteral entries source literal) := by
  decide +kernel

end CodeGloss.Gloss
