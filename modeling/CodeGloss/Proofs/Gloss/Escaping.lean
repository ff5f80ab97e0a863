import CodeGloss.Gloss.Escape
import CodeGloss.Proofs.Glossary.Substitution

/-!
# Escaped insertions and the plain translation

Entries act on what the ones before them inserted and escaped. Still, escaping
every insertion gives the same text as escaping the whole translation at its
end, as long as keys hold no quote and no backslash: such a key matches nowhere
at a protected character, and a protected character bounds a word from both
sides with its backslash or without it. So the escaped text can be read back.
-/

namespace CodeGloss.Gloss.Escape

open Glossary Text

/-- A character inside a literal between quotes. -/
def protect (quote c : Char) : List Char :=
  if c = '\\' ∨ c = quote then ['\\', c] else [c]

/-- Read a text in which a backslash stands for the character behind it. A bare
quote and a backslash with nothing behind it cannot be read. -/
def readProtected? (quote : Char) : List Char → Option (List Char)
  | [] => some []
  | c :: rest =>
      if c = '\\' then
        match rest with
        | [] => none
        | next :: rest => (readProtected? quote rest).map (next :: ·)
      else if c = quote then none
      else (readProtected? quote rest).map (c :: ·)

theorem readProtected?_cons {quote c : Char} (noBackslash : c ≠ '\\') (noQuote : c ≠ quote)
    (rest : List Char) :
    readProtected? quote (c :: rest) = (readProtected? quote rest).map (c :: ·) := by
  cases rest <;> simp [readProtected?, noBackslash, noQuote]

/-- The escape goes character by character. -/
theorem inQuotes_eq_flatMap {quote : Char} (differs : quote ≠ '\\') (text : List Char) :
    inQuotes [quote] text = text.flatMap (protect quote) := by
  rw [inQuotes, replaceAll_singleton, replaceAll_singleton, List.flatMap_assoc]
  congr 1
  funext c
  by_cases backslash : c = '\\'
  · simp [protect, backslash, Ne.symm differs]
  · by_cases isQuote : c = quote <;> simp [protect, backslash, isQuote, differs]

theorem protect_of_ne {quote c : Char} (noBackslash : c ≠ '\\') (noQuote : c ≠ quote) :
    protect quote c = [c] := by
  simp [protect, noBackslash, noQuote]

theorem flatMap_protect_of_not_mem {quote : Char} {text : List Char} (noBackslash : '\\' ∉ text)
    (noQuote : quote ∉ text) : text.flatMap (protect quote) = text := by
  induction text with
  | nil => rfl
  | cons c rest ih =>
      rw [List.mem_cons, not_or] at noBackslash noQuote
      rw [List.flatMap_cons, protect_of_ne (Ne.symm noBackslash.1) (Ne.symm noQuote.1),
        ih noBackslash.2 noQuote.2]
      rfl

/-- Reading undoes the escape. -/
theorem readProtected?_flatMap_protect {quote : Char} (text : List Char) :
    readProtected? quote (text.flatMap (protect quote)) = some text := by
  induction text with
  | nil => rfl
  | cons c rest ih =>
      by_cases backslash : c = '\\'
      · simp [protect, backslash, readProtected?, ih]
      · by_cases isQuote : c = quote
        · simp [protect, isQuote, readProtected?, ih]
        · rw [List.flatMap_cons, protect_of_ne backslash isQuote, List.singleton_append,
            readProtected?_cons backslash isQuote, ih]
          rfl

/-! ## Matches in an escaped text -/

section Matches

variable {quote : Char} {m : Matcher}

theorem isWordAt_head?_flatMap_protect (noWord : isWord quote = false) (text : List Char) :
    isWordAt (text.flatMap (protect quote)).head? = isWordAt text.head? := by
  cases text with
  | nil => rfl
  | cons c rest =>
      have noWordBackslash : isWord '\\' = false := by decide
      by_cases backslash : c = '\\'
      · simp [protect, backslash]
      · by_cases isQuote : c = quote
        · simp [protect, isQuote, isWordAt, noWord, noWordBackslash]
        · simp [protect_of_ne backslash isQuote]

/-- What a key without quotes and backslashes matches is not escaped. -/
theorem flatMap_protect_matched {key matched : List Char} (mark : isMark quote = true)
    (starts : startsWithLetters key matched = true) (length : matched.length = key.length)
    (noBackslash : '\\' ∉ key) (noQuote : quote ∉ key) :
    matched.flatMap (protect quote) = matched :=
  flatMap_protect_of_not_mem
    (fun member => noBackslash (mem_key_of_mem_matched starts length member (by decide)))
    (fun member => noQuote (mem_key_of_mem_matched starts length member mark))

theorem startsWithLetters_flatMap_protect {key : List Char} (mark : isMark quote = true)
    (noBackslash : '\\' ∉ key) (noQuote : quote ∉ key) (text : List Char) :
    startsWithLetters key (text.flatMap (protect quote)) = startsWithLetters key text := by
  induction key generalizing text with
  | nil => rfl
  | cons k key ih =>
      rw [List.mem_cons, not_or] at noBackslash noQuote
      cases text with
      | nil => rfl
      | cons c rest =>
          have apart : ∀ x, isMark x = true → x ≠ k → sameLetter k x = false := by
            intro x xMark differs
            rw [Bool.eq_false_iff]
            intro same
            exact differs (eq_of_sameLetter_of_isMark same xMark).symm
          have notBackslash : sameLetter k '\\' = false := apart '\\' (by decide) noBackslash.1
          have notQuote : sameLetter k quote = false := apart quote mark noQuote.1
          by_cases backslash : c = '\\'
          · simp [protect, backslash, startsWithLetters, notBackslash]
          · by_cases isQuote : c = quote
            · simp [protect, isQuote, startsWithLetters, notBackslash, notQuote]
            · simp [protect_of_ne backslash isQuote, startsWithLetters,
                ih noBackslash.2 noQuote.2]

theorem matchesAt_flatMap_protect {before before' : Option Char} (mark : isMark quote = true)
    (noWord : isWord quote = false) (nonempty : m.key ≠ []) (noBackslash : '\\' ∉ m.key)
    (noQuote : quote ∉ m.key) (sameBefore : isWordAt before' = isWordAt before)
    (text : List Char) :
    m.matchesAt before' (text.flatMap (protect quote)) = m.matchesAt before text := by
  have sameStart := startsWithLetters_flatMap_protect mark noBackslash noQuote text
  cases starts : startsWithLetters m.key text with
  | false =>
      rw [starts] at sameStart
      rw [Matcher.matchesAt, Matcher.matchesAt, sameStart, starts, Bool.false_and, Bool.false_and]
  | true =>
      have length : (text.take m.key.length).length = m.key.length := by
        rw [List.length_take, Nat.min_eq_left (length_le_of_startsWithLetters starts)]
      rw [← List.take_append_drop m.key.length text] at starts ⊢
      rw [startsWithLetters_append _ length] at starts
      rw [List.flatMap_append, flatMap_protect_matched mark starts length noBackslash noQuote]
      exact Matcher.matchesAt_congr nonempty length sameBefore
        (isWordAt_head?_flatMap_protect noWord _)

/-- A substitution in the escaped text, with escaped insertions, follows the
substitution in the text itself. -/
theorem substitutes_flatMap_protect {replace : List Char → List Char} {before : Option Char}
    {text out : List Char} (mark : isMark quote = true) (noWord : isWord quote = false)
    (nonempty : m.key ≠ []) (noBackslash : '\\' ∉ m.key) (noQuote : quote ∉ m.key)
    (run : m.Substitutes replace before text out) {before' : Option Char}
    (sameBefore : isWordAt before' = isWordAt before) :
    m.Substitutes (fun matched => (replace matched).flatMap (protect quote)) before'
      (text.flatMap (protect quote)) (out.flatMap (protect quote)) := by
  induction run generalizing before' with
  | done before => exact .done before'
  | @keep before c rest out noMatch _ ih =>
      rw [List.flatMap_cons, List.flatMap_cons]
      by_cases isProtected : c = '\\' ∨ c = quote
      · -- Neither the backslash nor what it protects can start a match.
        rw [protect, if_pos isProtected]
        have isMark : isMark c = true := by
          rcases isProtected with rfl | rfl
          · decide
          · exact mark
        have absent : c ∉ m.key := by
          rcases isProtected with rfl | rfl
          · exact noBackslash
          · exact noQuote
        exact .keep (Matcher.matchesAt_of_mark nonempty (by decide) noBackslash _ _)
          (.keep (Matcher.matchesAt_of_mark nonempty isMark absent _ _) (ih rfl))
      · rw [not_or] at isProtected
        rw [protect_of_ne isProtected.1 isProtected.2]
        refine .keep ?_ (ih rfl)
        rw [← noMatch, ← matchesAt_flatMap_protect mark noWord nonempty noBackslash noQuote
          sameBefore, List.flatMap_cons, protect_of_ne isProtected.1 isProtected.2]
        rfl
  | @hit before matched rest out length isMatch _ ih =>
      have starts := Matcher.startsWithLetters_of_matchesAt isMatch
      rw [startsWithLetters_append _ length] at starts
      have bare := flatMap_protect_matched mark starts length noBackslash noQuote
      have isMatch' := isMatch
      rw [← matchesAt_flatMap_protect mark noWord nonempty noBackslash noQuote sameBefore,
        List.flatMap_append, bare] at isMatch'
      rw [List.flatMap_append, List.flatMap_append, bare]
      exact .hit length isMatch' (ih rfl)

end Matches

/-! ## Texts that need no escape -/

theorem replaceAll_of_not_mem {old text : List Char} {c : Char} (member : c ∈ old)
    (absent : c ∉ text) (new : List Char) : replaceAll old new text = text := by
  induction text with
  | nil => exact replaceAll_nil new (List.ne_nil_of_mem member)
  | cons x rest ih =>
      have noMatch : ¬ old <+: x :: rest := fun starts => absent (starts.subset member)
      rw [replaceAll_cons new noMatch, ih fun later => absent (List.mem_cons_of_mem x later)]

theorem inQuotes_of_not_mem {quote : Char} {text : List Char} (noBackslash : '\\' ∉ text)
    (noQuote : quote ∉ text) : inQuotes [quote] text = text := by
  rw [inQuotes, replaceAll_of_not_mem List.mem_cons_self noBackslash,
    replaceAll_of_not_mem List.mem_cons_self noQuote]

/-- The escape does not bring in a quote. -/
theorem quote_not_mem_inQuotes {quote : Char} {text : List Char} (differs : quote ≠ '\\')
    (noQuote : quote ∉ text) : quote ∉ inQuotes [quote] text := by
  rw [inQuotes_eq_flatMap differs, List.mem_flatMap]
  rintro ⟨c, inText, inImage⟩
  have noMember : c ≠ quote := by
    rintro rfl
    exact noQuote inText
  by_cases backslash : c = '\\'
  · simp [protect, backslash, differs] at inImage
  · simp [protect, backslash, noMember, Ne.symm noMember] at inImage

theorem inTripleQuotes_of_not_mem {quote : Char} {text : List Char} (noBackslash : '\\' ∉ text)
    (noQuote : quote ∉ text) : inTripleQuotes [quote] text = text := by
  rw [inTripleQuotes, replaceAll_of_not_mem List.mem_cons_self noBackslash]
  exact replaceAll_of_not_mem List.mem_cons_self noQuote _

/-! ## Escaping and translating -/

theorem apply_inQuotes {quote : Char} {entry : Entry} (differs : quote ≠ '\\')
    (mark : isMark quote = true) (noWord : isWord quote = false) (nonempty : entry.key ≠ [])
    (noBackslash : '\\' ∉ entry.key) (noQuote : quote ∉ entry.key) (text : List Char) :
    entry.apply (inQuotes [quote]) (text.flatMap (protect quote)) =
      (entry.apply id text).flatMap (protect quote) := by
  have escaped : entry.insertion (inQuotes [quote]) =
      fun matched => (entry.insertion id matched).flatMap (protect quote) := by
    funext matched
    exact inQuotes_eq_flatMap differs _
  have plain := (Matcher.substitutes_iff (m := entry.matcher) nonempty).mpr
    (Eq.refl (entry.apply id text))
  rw [Entry.apply, escaped]
  exact (Matcher.substitutes_iff nonempty).mp
    (substitutes_flatMap_protect mark noWord nonempty noBackslash noQuote plain rfl)

theorem translateEscaped_flatMap_protect {quote : Char} {entries : List Entry}
    (differs : quote ≠ '\\') (mark : isMark quote = true) (noWord : isWord quote = false)
    (keys : ∀ entry ∈ entries, entry.key ≠ [] ∧ quote ∉ entry.key ∧ '\\' ∉ entry.key)
    (text : List Char) :
    translateEscaped entries (inQuotes [quote]) (text.flatMap (protect quote)) =
      (translate entries text).flatMap (protect quote) := by
  induction entries generalizing text with
  | nil => rfl
  | cons entry entries ih =>
      rcases keys entry List.mem_cons_self with ⟨nonempty, noQuote, noBackslash⟩
      rw [translateEscaped_cons, apply_inQuotes differs mark noWord nonempty noBackslash noQuote]
      exact ih (fun later laterMem => keys later (List.mem_cons_of_mem entry laterMem)) _

/-- Escaping commutes with translating: to escape each insertion as it is made is
to escape the translation, and the escaped text reads as the translation. -/
theorem translateEscaped_inQuotes {quote : Char} {entries : List Entry} {text : List Char}
    (isQuote : quote = '\'' ∨ quote = '"') (noQuote : quote ∉ text) (noBackslash : '\\' ∉ text)
    (keys : ∀ entry ∈ entries, entry.key ≠ [] ∧ quote ∉ entry.key ∧ '\\' ∉ entry.key) :
    translateEscaped entries (inQuotes [quote]) text = inQuotes [quote] (translate entries text)
      ∧ readProtected? quote (translateEscaped entries (inQuotes [quote]) text)
        = some (translate entries text) := by
  have differs : quote ≠ '\\' := by rcases isQuote with rfl | rfl <;> decide
  have mark : isMark quote = true := by rcases isQuote with rfl | rfl <;> decide
  have noWord : isWord quote = false := by rcases isQuote with rfl | rfl <;> decide
  have escaped := translateEscaped_flatMap_protect differs mark noWord keys text
  rw [flatMap_protect_of_not_mem noBackslash noQuote] at escaped
  constructor
  · rw [escaped, inQuotes_eq_flatMap differs]
  · rw [escaped, readProtected?_flatMap_protect]

/-- The second entry acts between the escaped quotes that the first one inserts. -/
theorem translateEscaped_inQuotes_cascade :
    let entries : List Entry :=
      [⟨"it".toList, "a \"b\\c\"".toList⟩, ⟨"b".toList, "'x'".toList⟩]
    let text := "see it".toList
    (∀ entry ∈ entries, entry.key ≠ [] ∧ '"' ∉ entry.key ∧ '\\' ∉ entry.key)
      ∧ '"' ∉ text ∧ '\\' ∉ text
      ∧ translateEscaped entries (inQuotes ['"']) text = inQuotes ['"'] (translate entries text)
      ∧ readProtected? '"' (translateEscaped entries (inQuotes ['"']) text)
        = some (translate entries text) := by
  intro entries text
  have keys : ∀ entry ∈ entries, entry.key ≠ [] ∧ '"' ∉ entry.key ∧ '\\' ∉ entry.key := by
    decide
  have noQuote : '"' ∉ text := by decide
  have noBackslash : '\\' ∉ text := by decide
  exact ⟨keys, noQuote, noBackslash,
    translateEscaped_inQuotes (.inr rfl) noQuote noBackslash keys⟩

end CodeGloss.Gloss.Escape
