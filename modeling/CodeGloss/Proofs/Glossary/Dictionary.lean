import CodeGloss.Glossary.Entry

/-!
# What the entries of a dictionary are

A candidate of two texts proposes an entry by its stripped key alone. Every entry of a
dictionary is one that a candidate proposes, so its key and its translation have characters,
and every key that a candidate proposes has an entry.
-/

namespace CodeGloss.Glossary

open Text

/-! ## Candidates -/

theorem normalizeKey_strip (text : List Char) : normalizeKey (strip text) = normalizeKey text := by
  rw [normalizeKey, strip_strip, normalizeKey]

theorem isEmpty_normalizeKey_of_isEmpty {text : List Char} (isEmpty : text.isEmpty = true) :
    (normalizeKey text).isEmpty = true := by
  rw [List.isEmpty_iff.mp isEmpty]
  rfl

/-- A candidate of two texts has an entry by its key alone. -/
theorem entry?_text (term translation : List Char) :
    Candidate.entry? (.text term, .text translation) =
      if translation.isEmpty || (normalizeKey term).isEmpty then none
      else some ⟨normalizeKey term, translation⟩ := by
  rw [Candidate.entry?]
  by_cases isEmpty : term.isEmpty = true
  · rw [isEmpty, isEmpty_normalizeKey_of_isEmpty isEmpty]
    simp
  · rw [Bool.not_eq_true] at isEmpty
    rw [isEmpty, Bool.false_or]

theorem entry?_strip (term translation : List Char) :
    Candidate.entry? (.text (strip term), .text translation) =
      Candidate.entry? (.text term, .text translation) := by
  rw [entry?_text, entry?_text, normalizeKey_strip]

theorem entry?_of_strip_eq_nil {term : List Char} (blank : strip term = [])
    (translation : List Char) : Candidate.entry? (.text term, .text translation) = none := by
  rw [← entry?_strip, blank]
  rfl

theorem Candidate.ne_nil_of_entry? {candidate : Candidate} {entry : Entry}
    (proposed : candidate.entry? = some entry) : entry.key ≠ [] ∧ entry.translation ≠ [] := by
  unfold Candidate.entry? at proposed
  split at proposed
  · split at proposed
    · contradiction
    · rename_i content
      simp only [Bool.or_eq_true, List.isEmpty_iff, not_or] at content
      cases proposed
      exact ⟨content.2, content.1.2⟩
  · contradiction

/-! ## Entries -/

theorem firstOfEach_cons (taken : List (List Char)) (entry : Entry) (rest : List Entry) :
    firstOfEach taken (entry :: rest) =
      if entry.key ∈ taken then firstOfEach taken rest
      else entry :: firstOfEach (entry.key :: taken) rest :=
  rfl

theorem mem_of_mem_firstOfEach {taken : List (List Char)} {entries : List Entry} {entry : Entry}
    (member : entry ∈ firstOfEach taken entries) : entry ∈ entries := by
  induction entries generalizing taken with
  | nil => exact member
  | cons first rest ih =>
      rw [firstOfEach_cons] at member
      split at member
      · exact List.mem_cons_of_mem first (ih member)
      · rcases List.mem_cons.mp member with rfl | later
        · exact List.mem_cons_self
        · exact List.mem_cons_of_mem first (ih later)

/-- Every key has an entry, unless it was taken before. -/
theorem exists_mem_firstOfEach (taken : List (List Char)) {entries : List Entry} {entry : Entry}
    (member : entry ∈ entries) :
    entry.key ∈ taken ∨ ∃ first ∈ firstOfEach taken entries, first.key = entry.key := by
  induction entries generalizing taken with
  | nil => contradiction
  | cons head rest ih =>
      rw [firstOfEach_cons]
      split
      · rename_i isTaken
        rcases List.mem_cons.mp member with rfl | later
        · exact .inl isTaken
        · exact ih taken later
      · rcases List.mem_cons.mp member with rfl | later
        · exact .inr ⟨entry, List.mem_cons_self, rfl⟩
        · rcases ih (head.key :: taken) later with isTaken | ⟨first, firstMem, same⟩
          · rcases List.mem_cons.mp isTaken with isHead | before
            · exact .inr ⟨head, List.mem_cons_self, isHead.symm⟩
            · exact .inl before
          · exact .inr ⟨first, List.mem_cons_of_mem head firstMem, same⟩

/-- An entry of a dictionary is one that a candidate proposes. -/
theorem mem_proposed_of_mem_dictionaryOf {terms : List Term} {vocabulary : Vocabulary}
    {entry : Entry} (member : entry ∈ dictionaryOf terms vocabulary) :
    entry ∈ (candidates terms vocabulary).filterMap Candidate.entry? :=
  mem_of_mem_firstOfEach (List.mem_mergeSort.mp member)

/-- No entry of a dictionary has an empty key or an empty translation. -/
theorem ne_nil_of_mem_dictionaryOf {terms : List Term} {vocabulary : Vocabulary} {entry : Entry}
    (member : entry ∈ dictionaryOf terms vocabulary) :
    entry.key ≠ [] ∧ entry.translation ≠ [] := by
  rcases List.mem_filterMap.mp (mem_proposed_of_mem_dictionaryOf member) with ⟨candidate, _, isEntry⟩
  exact candidate.ne_nil_of_entry? isEntry

/-- What is found for a name is an entry with its key. -/
theorem mem_of_entryOf? {entries : List Entry} {name : List Char} {entry : Entry}
    (isFound : entryOf? entries name = some entry) :
    entry ∈ entries ∧ entry.key = normalizeKey name := by
  rw [entryOf?] at isFound
  have hasKey := List.find?_some isFound
  exact ⟨List.mem_of_find?_eq_some isFound, beq_iff_eq.mp hasKey⟩

theorem exists_entryOf? {entries : List Entry} {name : List Char} {entry : Entry}
    (member : entry ∈ entries) (isKey : entry.key = normalizeKey name) :
    ∃ found, entryOf? entries name = some found := by
  rw [← Option.isSome_iff_exists, entryOf?, List.find?_isSome]
  exact ⟨entry, member, beq_iff_eq.mpr isKey⟩

/-- What a candidate proposes is found by its key. -/
theorem exists_entryOf?_dictionaryOf {terms : List Term} {vocabulary : Vocabulary} {entry : Entry}
    {name : List Char}
    (proposed : entry ∈ (candidates terms vocabulary).filterMap Candidate.entry?)
    (isKey : entry.key = normalizeKey name) :
    ∃ found, entryOf? (dictionaryOf terms vocabulary) name = some found
      ∧ found.key = normalizeKey name := by
  have covered : ∃ first ∈ dictionaryOf terms vocabulary, first.key = entry.key := by
    rcases exists_mem_firstOfEach [] proposed with isTaken | ⟨first, member, same⟩
    · contradiction
    · exact ⟨first, List.mem_mergeSort.mpr member, same⟩
  rcases covered with ⟨first, member, same⟩
  rcases exists_entryOf? member (same.trans isKey) with ⟨found, isEntry⟩
  exact ⟨found, isEntry, (mem_of_entryOf? isEntry).2⟩

end CodeGloss.Glossary
