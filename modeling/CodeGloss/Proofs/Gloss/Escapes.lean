import CodeGloss.Proofs.Gloss.Literals
import CodeGloss.Proofs.Glossary.WordStart

/-!
# Escapes of a literal

A backslash in a literal that is not raw escapes the character behind it. What is
inserted into a literal brings its own escapes whole, and a key of word characters
has no backslash, so a match leaves the escapes around it alone. Only a match that
starts with an escaped character takes it away from its backslash. If no entry may
start at an escape, all escapes are there in the translated literal, in their order.
-/

namespace CodeGloss.Gloss

open Glossary Scan Text

/-! ## Reading escapes -/

/-- The text from each escaped character on, where `escaped` says whether the first character
is escaped itself. -/
def escapedTails : Bool → List Char → List (List Char)
  | _, [] => []
  | true, c :: rest => (c :: rest) :: escapedTails false rest
  | false, c :: rest => escapedTails (c == '\\') rest

/-- The backslash and the character that it escapes. -/
def escapeOf (tail : List Char) : List Char :=
  '\\' :: tail.take 1

/-- The escapes of a text, from the left. -/
def escapes (text : List Char) : List (List Char) :=
  (escapedTails false text).map escapeOf

/-- A text in which each backslash escapes a character that starts no word. -/
inductive WholeEscapes : List Char → Prop
  | nil : WholeEscapes []
  | escape {c : Char} {text : List Char} (noWord : isWord c = false) (tail : WholeEscapes text) :
      WholeEscapes ('\\' :: c :: text)
  | plain {c : Char} {text : List Char} (bare : c ≠ '\\') (tail : WholeEscapes text) :
      WholeEscapes (c :: text)

theorem WholeEscapes.append {text rest : List Char} (whole : WholeEscapes text)
    (wholeRest : WholeEscapes rest) : WholeEscapes (text ++ rest) := by
  induction whole with
  | nil => exact wholeRest
  | escape noWord _ ih => exact .escape noWord ih
  | plain bare _ ih => exact .plain bare ih

/-- Whole escapes come before those of the text behind them, and no word starts at them. -/
theorem WholeEscapes.escapedTails_append {inserted : List Char} (whole : WholeEscapes inserted)
    (text : List Char) :
    ∃ tails, escapedTails false (inserted ++ text) = tails ++ escapedTails false text
      ∧ ∀ tail ∈ tails, isWordAt tail.head? = false := by
  induction whole with
  | nil => exact ⟨[], rfl, by simp⟩
  | @escape c rest noWord _ ih =>
      rcases ih with ⟨tails, same, noWords⟩
      refine ⟨(c :: (rest ++ text)) :: tails, ?_, List.forall_mem_cons.mpr ⟨noWord, noWords⟩⟩
      exact congrArg (List.cons _) same
  | @plain c rest bare _ ih =>
      have unescaped : (c == '\\') = false := beq_eq_false_iff_ne.mpr bare
      rw [List.cons_append, escapedTails, unescaped]
      exact ih

theorem escapedTails_append_of_not_mem {matched : List Char} (noBackslash : '\\' ∉ matched)
    (text : List Char) :
    escapedTails false (matched ++ text) = escapedTails false text := by
  induction matched with
  | nil => rfl
  | cons c matched ih =>
      rw [List.mem_cons, not_or] at noBackslash
      have unescaped : (c == '\\') = false := beq_eq_false_iff_ne.mpr (Ne.symm noBackslash.1)
      rw [List.cons_append, escapedTails, unescaped, ih noBackslash.2]

/-! ## Insertions -/

section Insertions

variable {quote : Char}

theorem wholeEscapes_inQuotes (differs : quote ≠ '\\') (noWord : isWord quote = false)
    (text : List Char) : WholeEscapes (Escape.inQuotes [quote] text) := by
  rw [Escape.inQuotes_eq_flatMap differs]
  induction text with
  | nil => exact .nil
  | cons c text ih =>
      rw [List.flatMap_cons]
      apply WholeEscapes.append _ ih
      unfold Escape.protect
      split
      · rename_i isProtected
        have noWordHere : isWord c = false := by
          rcases isProtected with rfl | rfl
          · decide
          · exact noWord
        exact .escape noWordHere .nil
      · rename_i bare
        exact .plain (fun isBackslash => bare (.inl isBackslash)) .nil

theorem wholeEscapes_inTripleQuotes (differs : quote ≠ '\\') (noWord : isWord quote = false)
    (text : List Char) : WholeEscapes (Escape.inTripleQuotes [quote] text) := by
  have replaces : Replaces '\\' ['\\', '\\'] [quote, quote, quote] [quote, quote, '\\', quote] text
      (Escape.inTripleQuotes [quote] text) :=
    replaces_replaceAll (by simp) (by simp) (by simp [Ne.symm differs]) (by simp [Ne.symm differs])
      text
  generalize Escape.inTripleQuotes [quote] text = out at replaces
  induction replaces with
  | done => exact .nil
  | single _ ih => exact .escape (by decide) ih
  | part _ ih => exact .plain differs (.plain differs (.escape noWord ih))
  | keep bare _ _ ih => exact .plain bare ih

theorem wholeEscapes_literalEscape {literal : Literal}
    (isQuote : literal.quote ∈ ({} : Profile).quoteChars) (text : List Char) :
    WholeEscapes (literalEscape literal text) := by
  have differs := ne_backslash_of_quote isQuote
  have noWord := isWord_of_mem_quoteChars isQuote
  rw [literalEscape]
  split
  · exact wholeEscapes_inTripleQuotes differs noWord text
  · exact wholeEscapes_inQuotes differs noWord text

end Insertions

/-! ## One entry -/

section OneEntry

variable {entry other : Entry} {replace : List Char → List Char} {before : Option Char}
  {escaped : Bool} {text out : List Char}

theorem backslash_not_mem_matched {matched : List Char} (isWordKey : entry.IsWord)
    (isMatch : entry.matcher.matchesAt before (matched ++ text) = true)
    (length : matched.length = entry.key.length) : '\\' ∉ matched := by
  have starts : startsWithLetters entry.key (matched ++ text) = true :=
    Matcher.startsWithLetters_of_matchesAt isMatch
  rw [startsWithLetters_append text length] at starts
  intro member
  rcases isWord_of_mem_matched isWordKey.word starts length '\\' member with isLetter | isIota
  · exact absurd isLetter (by decide)
  · exact absurd isIota (by decide)

theorem isWordAt_of_isBackslash {c : Char} (isBackslash : (c == '\\') = true) :
    isWordAt (some c) = false := by
  rw [beq_iff_eq.mp isBackslash]
  decide

/-- A match that may not start at an escape does not start with an escaped character. -/
theorem not_escaped_of_matchesAt (isWordKey : entry.IsWord)
    (outside : escaped = true → isWordAt before = false)
    (spared : ∀ tail ∈ escapedTails escaped text, entry.mayStartAt tail = false)
    (isMatch : entry.matcher.matchesAt before text = true) : escaped = false := by
  cases escaped with
  | false => rfl
  | true =>
      have starts := isWordKey.mayStartAt_of_matchesAt (outside rfl) isMatch
      cases text with
      | nil => contradiction
      | cons c rest =>
          rw [spared (c :: rest) List.mem_cons_self] at starts
          contradiction

/-- A substitution keeps the escapes at which the entry may not start. -/
theorem escapes_sublist_of_substitutes (isWordKey : entry.IsWord)
    (whole : ∀ matched, WholeEscapes (replace matched))
    (run : entry.matcher.Substitutes replace before text out)
    (outside : escaped = true → isWordAt before = false)
    (spared : ∀ tail ∈ escapedTails escaped text, entry.mayStartAt tail = false) :
    ((escapedTails escaped text).map escapeOf).Sublist
      ((escapedTails escaped out).map escapeOf) := by
  induction run generalizing escaped with
  | done before => exact .refl _
  | @keep before c rest out _ _ ih =>
      cases escaped with
      | true =>
          rw [escapedTails] at spared
          exact .cons_cons _ (ih (by simp) (List.forall_mem_cons.mp spared).2)
      | false => exact ih isWordAt_of_isBackslash spared
  | @hit before matched rest out length isMatch _ ih =>
      cases not_escaped_of_matchesAt isWordKey outside spared isMatch
      have noBackslash := backslash_not_mem_matched isWordKey isMatch length
      rw [escapedTails_append_of_not_mem noBackslash] at spared ⊢
      rcases (whole matched).escapedTails_append out with ⟨tails, same, _⟩
      rw [same, List.map_append]
      exact (ih (by simp) spared).trans (List.sublist_append_right _ _)

/-- After a substitution, an entry may start at no escape at which it may not start before. -/
theorem mayStartAt_of_mem_escapedTails (isWordKey : entry.IsWord)
    (whole : ∀ matched, WholeEscapes (replace matched))
    (run : entry.matcher.Substitutes replace before text out)
    (outside : escaped = true → isWordAt before = false)
    (spared : ∀ tail ∈ escapedTails escaped text, entry.mayStartAt tail = false)
    {tail : List Char} (isTail : tail ∈ escapedTails escaped out)
    (starts : other.mayStartAt tail = true) :
    ∃ former ∈ escapedTails escaped text, other.mayStartAt former = true := by
  induction run generalizing escaped with
  | done before => cases escaped <;> contradiction
  | @keep before c rest out noMatch run ih =>
      cases escaped with
      | true =>
          rw [escapedTails, List.forall_mem_cons] at spared
          rcases List.mem_cons.mp isTail with rfl | later
          · exact ⟨c :: rest, List.mem_cons_self,
              isWordKey.mayStartAt_of_substitutes (outside rfl) spared.1 (.keep noMatch run) starts⟩
          · rcases ih (by simp) spared.2 later with ⟨former, isFormer, startsFormer⟩
            exact ⟨former, List.mem_cons_of_mem (c :: rest) isFormer, startsFormer⟩
      | false => exact ih isWordAt_of_isBackslash spared isTail
  | @hit before matched rest out length isMatch _ ih =>
      cases not_escaped_of_matchesAt isWordKey outside spared isMatch
      have noBackslash := backslash_not_mem_matched isWordKey isMatch length
      rw [escapedTails_append_of_not_mem noBackslash] at spared ⊢
      rcases (whole matched).escapedTails_append out with ⟨tails, same, noWords⟩
      rw [same, List.mem_append] at isTail
      rcases isTail with inserted | later
      · rw [Entry.mayStartAt_of_not_isWordAt (noWords tail inserted)] at starts
        contradiction
      · exact ih (by simp) spared later

end OneEntry

/-! ## A dictionary -/

/-- No entry may start at an escape of the text. -/
def SparesEscapes (entries : List Entry) (text : List Char) : Prop :=
  ∀ entry ∈ entries, ∀ tail ∈ escapedTails false text, entry.mayStartAt tail = false

theorem escapes_sublist_translateEscaped {entries : List Entry} {escape : List Char → List Char}
    {text : List Char} (words : ∀ entry ∈ entries, entry.IsWord)
    (whole : ∀ inserted, WholeEscapes (escape inserted)) (spared : SparesEscapes entries text) :
    (escapes text).Sublist (escapes (translateEscaped entries escape text)) := by
  have kept : SparesEscapes entries (translateEscaped entries escape text)
      ∧ (escapes text).Sublist (escapes (translateEscaped entries escape text)) := by
    apply translateEscaped_induction (fun out => SparesEscapes entries out
      ∧ (escapes text).Sublist (escapes out)) _ ⟨spared, .refl _⟩
    rintro entry member out ⟨spared, sublist⟩
    have isWordKey := words entry member
    have run := isWordKey.substitutes_apply escape out
    have wholeInsertion : ∀ matched, WholeEscapes (entry.insertion escape matched) :=
      fun matched => whole _
    refine ⟨?_, sublist.trans
      (escapes_sublist_of_substitutes isWordKey wholeInsertion run (by simp) (spared entry member))⟩
    intro other otherMember tail isTail
    rw [Bool.eq_false_iff]
    intro starts
    rcases mayStartAt_of_mem_escapedTails isWordKey wholeInsertion run (by simp) (spared entry member)
      isTail starts with ⟨former, isFormer, startsFormer⟩
    rw [spared other otherMember former isFormer] at startsFormer
    contradiction
  exact kept.2

/-- The escapes of a literal are among those of what replaces it, in their order, if no entry may
start at one of them. -/
theorem escapes_glossedLiteral {terms : List Term} {vocabulary : Vocabulary} {source : List Char}
    {literal : Literal} (found : .string literal ∈ scan {} source)
    (terminated : literal.terminated = true)
    (words : ∀ entry ∈ dictionaryOf terms vocabulary, ∀ c ∈ entry.key, isWord c = true)
    (spared : SparesEscapes (dictionaryOf terms vocabulary)
      (slice source literal.contentStart literal.contentStop)) :
    RecordsLiteral (dictionaryOf terms vocabulary) source literal
        (glossedLiteral (dictionaryOf terms vocabulary) source literal)
      ∧ ∃ rewritten, glossedLiteral (dictionaryOf terms vocabulary) source literal =
          literal.lead ++ literal.delimiter ++ rewritten ++ literal.delimiter
        ∧ (escapes (slice source literal.contentStart literal.contentStop)).Sublist
          (escapes rewritten) := by
  rcases content_of_mem_scan separate_default found terminated with ⟨isQuote, _, _⟩
  have areWords : ∀ entry ∈ dictionaryOf terms vocabulary, entry.IsWord :=
    fun entry member => ⟨(ne_nil_of_mem_dictionaryOf member).1, words entry member⟩
  exact ⟨recordsLiteral_glossedLiteral _ found terminated, _, rfl,
    escapes_sublist_translateEscaped areWords (wholeEscapes_literalEscape isQuote) spared⟩

/-- The second entry acts on the insertion of the first one, which stands behind an escaped
backslash. A letter that is escaped makes another word of the key. -/
theorem escapes_glossedLiteral_seams :
    let vocabulary : Vocabulary := [("user", "a\"b"), ("b", "\\c")].map
      fun (name, translation) => (name.toList, .text translation.toList)
    let entries := dictionaryOf [] vocabulary
    let source := "x = \"\\tuser \\\\user\\n\"".toList
    let literal : Literal := ⟨4, 21, 5, 20, [], '"', false, true⟩
    .string literal ∈ scan {} source
      ∧ (∀ entry ∈ entries, ∀ c ∈ entry.key, isWord c = true)
      ∧ SparesEscapes entries (slice source literal.contentStart literal.contentStop)
      ∧ RecordsLiteral entries source literal (glossedLiteral entries source literal)
      ∧ ∃ rewritten, glossedLiteral entries source literal =
          literal.lead ++ literal.delimiter ++ rewritten ++ literal.delimiter
        ∧ (escapes (slice source literal.contentStart literal.contentStop)).Sublist
          (escapes rewritten) := by
  intro vocabulary entries source literal
  have found : .string literal ∈ scan {} source := by decide +kernel
  have proposed : ∀ entry ∈ (candidates [] vocabulary).filterMap Candidate.entry?,
      entry.key.all isWord = true
        ∧ ∀ tail ∈ escapedTails false (slice source literal.contentStart literal.contentStop),
          entry.mayStartAt tail = false := by
    decide +kernel
  have words : ∀ entry ∈ entries, ∀ c ∈ entry.key, isWord c = true := fun entry member =>
    List.all_eq_true.mp (proposed entry (mem_proposed_of_mem_dictionaryOf member)).1
  have spared : SparesEscapes entries (slice source literal.contentStart literal.contentStop) :=
    fun entry member => (proposed entry (mem_proposed_of_mem_dictionaryOf member)).2
  exact ⟨found, words, spared, escapes_glossedLiteral found rfl words spared⟩

/-- A match that starts with an escaped character leaves another character to the backslash. -/
theorem not_escapes_glossedLiteral :
    let entries := dictionaryOf [] [("fetch".toList, .text "obtener".toList)]
    let source := "x = 'src\\fetch'".toList
    let literal : Literal := ⟨4, 15, 5, 14, [], '\'', false, true⟩
    let rewritten := "src\\obtener".toList
    .string literal ∈ scan {} source
      ∧ (∀ entry ∈ entries, ∀ c ∈ entry.key, isWord c = true)
      ∧ glossedLiteral entries source literal =
        literal.lead ++ literal.delimiter ++ rewritten ++ literal.delimiter
      ∧ escapes (slice source literal.contentStart literal.contentStop) = ["\\f".toList]
      ∧ escapes rewritten = ["\\o".toList]
      ∧ ¬ (escapes (slice source literal.contentStart literal.contentStop)).Sublist
        (escapes rewritten) := by
  intro entries source literal rewritten
  have words : entries.all (fun entry => entry.key.all isWord) = true := by decide +kernel
  have found : .string literal ∈ scan {} source := by decide +kernel
  refine ⟨found, ?_, by decide +kernel, by decide, by decide, by decide⟩
  intro entry member
  exact List.all_eq_true.mp (List.all_eq_true.mp words entry member)

end CodeGloss.Gloss
