import CodeGloss.Proofs.Glossary.Dictionary
import CodeGloss.Proofs.Glossary.Occurrence
import CodeGloss.Proofs.Glossary.WholeWord
import CodeGloss.Proofs.Text.LowerCase

/-!
# A term in its own spelling

The key of a term is its spelling in full lower case, and a key is matched letter by letter.
The two agree as long as lower case has as many letters. So every term of a collection is
matched as a whole where it is spelled as the collection spells it, unless it has a capital I
with a dot. Its key is then longer than the term itself, and does not match it at all.
-/

namespace CodeGloss.Glossary

open Text

section Spelling

variable {key text : List Char}

theorem sameLetters_lower (plain : 'İ' ∉ text) : SameLetters (lower text) text := by
  suffices same : ∀ before, SameLetters (lowerFrom before text) text from same []
  induction text with
  | nil => exact fun _ => .nil
  | cons c rest ih =>
      intro before
      rw [List.mem_cons, not_or] at plain
      rcases exists_lowerAt before rest (Ne.symm plain.1) with ⟨small, isSmall, same⟩
      rw [lowerFrom_cons, isSmall, List.singleton_append]
      exact .cons same (ih plain.2 (c :: before))

/-- A key that ends with a mark has the letters of texts that end with it. -/
theorem SameLetters.getLast?_of_isMark {c : Char} (same : SameLetters key text)
    (mark : isMark c = true) (last : key.getLast? = some c) : text.getLast? = some c := by
  unfold SameLetters at same
  rw [← List.head?_reverse] at last ⊢
  rw [← List.forall₂_reverse_iff] at same
  generalize key.reverse = keyBack, text.reverse = back at same last ⊢
  cases same with
  | nil => contradiction
  | cons sameLast _ =>
      rw [List.head?_cons, Option.some.injEq] at last ⊢
      subst last
      rw [sameLetter_comm] at sameLast
      exact eq_of_sameLetter_of_isMark sameLast mark

theorem getLast?_lower_ne (stripped : strip text = text) (plain : 'İ' ∉ text) :
    (lower text).getLast? ≠ some '\n' := by
  intro last
  exact getLast?_ne_of_strip_eq stripped
    ((sameLetters_lower plain).getLast?_of_isMark (by decide) last)

/-- A text whose lower case is a word has no iota subscript. -/
theorem iotaSubscript_not_mem_of_isWordKey (noBreak : (lower text).getLast? ≠ some '\n')
    (wordKey : isWordKey (lower text) = true) : iotaSubscript ∉ text := by
  intro member
  have isWord := isWord_of_isWordKey noBreak wordKey iotaSubscript (iotaSubscript_mem_lower member)
  rw [isWord_iotaSubscript] at isWord
  contradiction

theorem lower_ne_nil (nonempty : text ≠ []) : lower text ≠ [] := by
  rw [← List.length_pos_iff] at nonempty ⊢
  rw [length_lower]
  exact Nat.lt_add_right _ nonempty

/-- A text has no match of a longer key. -/
theorem Matcher.occurrences_of_length_lt {m : Matcher} (longer : text.length < m.key.length) :
    m.occurrences text = [] := by
  rw [occurrences, occurrencesFrom_eq_nil_iff]
  rintro front back rfl
  rw [Bool.eq_false_iff]
  intro isMatch
  have long := length_le_of_startsWithLetters (startsWithLetters_of_matchesAt isMatch)
  rw [List.length_append] at longer
  omega

/-- A text that a key covers has one match, which is the whole text. -/
theorem Matcher.occurrences_of_length_eq {m : Matcher} (nonempty : m.key ≠ [])
    (length : text.length = m.key.length) (isMatch : m.matchesAt none text = true) :
    m.occurrences text = [(0, text.length)] := by
  rw [← List.append_nil text] at isMatch
  have hit := occurrencesFrom_hit nonempty length isMatch 0
  rw [List.append_nil, occurrencesFrom_nil nonempty, Nat.zero_add, ← length] at hit
  exact hit

/-- The lower case of a stripped text matches the text as a whole, unless a dotted capital I
makes it longer. -/
theorem occurrences_ofKey_lower (nonempty : text ≠ []) (stripped : strip text = text) :
    (Matcher.ofKey (lower text)).occurrences text =
      if 'İ' ∈ text then [] else [(0, text.length)] := by
  split
  · rename_i dotted
    apply Matcher.occurrences_of_length_lt
    show text.length < (lower text).length
    rw [length_lower]
    exact Nat.lt_add_of_pos_right (List.count_pos_iff.mpr dotted)
  · rename_i plain
    have length : text.length = (lower text).length := by
      rw [length_lower, List.count_eq_zero.mpr plain, Nat.add_zero]
    have noBreak := getLast?_lower_ne stripped plain
    have isMatch : (Matcher.ofKey (lower text)).matchesAt none (text ++ []) = true := by
      rw [Matcher.matchesAt_ofKey_iff (lower_ne_nil nonempty) noBreak length
        (iotaSubscript_not_mem_of_isWordKey noBreak)]
      exact ⟨sameLetters_lower plain, rfl, rfl⟩
    rw [List.append_nil] at isMatch
    exact Matcher.occurrences_of_length_eq (lower_ne_nil nonempty) length isMatch

end Spelling

theorem mem_candidates_of_mem {terms : List Term} {term : Term} (member : term ∈ terms)
    (vocabulary : Vocabulary) : (term.term, term.translation) ∈ candidates terms vocabulary := by
  induction terms with
  | nil => contradiction
  | cons first rest ih =>
      rw [candidates_cons]
      rcases List.mem_cons.mp member with rfl | later
      · exact List.mem_cons_self
      · exact List.mem_cons_of_mem _ (List.mem_append_right _ (ih later))

/-- A term of two texts with content proposes an entry for its key. -/
theorem mem_proposed_of_mem {terms : List Term} {term : Term} {name translation : List Char}
    (member : term ∈ terms) (isName : term.term = .text name)
    (isTranslation : term.translation = .text translation) (content : strip name ≠ [])
    (translated : translation ≠ []) (vocabulary : Vocabulary) :
    (⟨normalizeKey name, translation⟩ : Entry) ∈
      (candidates terms vocabulary).filterMap Candidate.entry? := by
  refine List.mem_filterMap.mpr ⟨(.text name, .text translation), ?_, ?_⟩
  · rw [← isName, ← isTranslation]
    exact mem_candidates_of_mem member vocabulary
  · have hasKey : normalizeKey name ≠ [] := lower_ne_nil content
    rw [entry?_text, if_neg (by simp [translated, hasKey])]

/-- Each term of a collection has an entry in the dictionary, and the entry matches the term in
its own spelling from start to end, unless a dotted capital I is in it: then it does not match
there at all. -/
theorem occurrences_ownSpelling {terms : List Term} {term : Term} {name translation : List Char}
    (member : term ∈ terms) (isName : term.term = .text name)
    (isTranslation : term.translation = .text translation) (content : strip name ≠ [])
    (translated : translation ≠ []) (vocabulary : Vocabulary) :
    ∃ entry, entryOf? (dictionaryOf terms vocabulary) name = some entry
      ∧ entry.key = normalizeKey name
      ∧ entry.matcher.occurrences (strip name) =
        if 'İ' ∈ strip name then [] else [(0, (strip name).length)] := by
  have proposed := mem_proposed_of_mem member isName isTranslation content translated vocabulary
  rcases exists_entryOf?_dictionaryOf proposed rfl with ⟨entry, isEntry, isKey⟩
  refine ⟨entry, isEntry, isKey, ?_⟩
  rw [Entry.matcher, isKey, normalizeKey]
  exact occurrences_ofKey_lower content (strip_strip name)

/-- A capital sigma has one lower case within a word and another at its end, and both match. -/
theorem occurrences_ownSpelling_sigma :
    let name := " ΣΟΦΟΣ ".toList
    let translation := "sabio".toList
    let term := Term.ofText name translation ["ΣΟΦΗ".toList]
    term.term = .text name ∧ term.translation = .text translation ∧ strip name ≠ []
      ∧ translation ≠ []
      ∧ ∃ entry, entryOf? (dictionaryOf [term] []) name = some entry
        ∧ entry.key = normalizeKey name
        ∧ entry.matcher.occurrences (strip name) =
          if 'İ' ∈ strip name then [] else [(0, (strip name).length)] := by
  intro name translation term
  have content : strip name ≠ [] := by decide
  have translated : translation ≠ [] := by decide
  exact ⟨rfl, rfl, content, translated,
    occurrences_ownSpelling List.mem_cons_self rfl rfl content translated []⟩

/-- The dotted capital I of `İstanbul` is two characters in its key. -/
theorem not_occurrences_ownSpelling :
    let name := "İstanbul".toList
    let term := Term.ofText name "Estambul".toList []
    strip name = name ∧ ∃ entry, entryOf? (dictionaryOf [term] []) name = some entry
      ∧ entry.key = normalizeKey name
      ∧ entry.matcher.occurrences name ≠ [(0, name.length)] := by
  intro name term
  have isStripped : strip name = name := by decide
  refine ⟨isStripped, ⟨normalizeKey name, "Estambul".toList⟩, ?_, rfl, ?_⟩
  · decide +kernel
  · decide +kernel

end CodeGloss.Glossary
