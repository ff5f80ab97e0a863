import CodeGloss.Gloss.Escape
import CodeGloss.Proofs.Glossary.Occurrence
import CodeGloss.Proofs.Glossary.WordKey

/-!
# Translating word by word

Where all keys are words, a text may be cut at any gap and its parts translated each for
itself, whatever the entries insert on either side. So a word between two gaps depends on
the keys alone: if it has the letters of none of them, no entry touches it.
-/

namespace CodeGloss.Glossary

open Text

section Parts

variable {entries : List Entry} {escape : List Char → List Char} {gap : Char}

theorem translateEscaped_gap_cons (words : ∀ entry ∈ entries, entry.IsWord)
    (isGap : isGap gap = true) (behind : List Char) :
    translateEscaped entries escape (gap :: behind) =
      gap :: translateEscaped entries escape behind := by
  have parts : translateEscaped entries escape ([] ++ gap :: behind) =
      translateEscaped entries escape [] ++ gap :: translateEscaped entries escape behind :=
    translateEscaped_append_gap words isGap [] behind
  rw [translateEscaped_empty fun entry member => (words entry member).key_ne_nil] at parts
  exact parts

/-- A text may be cut in front of a gap, behind a gap, and at its ends. -/
theorem translateEscaped_append (words : ∀ entry ∈ entries, entry.IsWord) {front rest : List Char}
    (atGap : (∀ c ∈ front.getLast?, isGap c = true) ∨ ∀ c ∈ rest.head?, isGap c = true) :
    translateEscaped entries escape (front ++ rest) =
      translateEscaped entries escape front ++ translateEscaped entries escape rest := by
  have empty : translateEscaped entries escape [] = [] :=
    translateEscaped_empty (fun entry member => (words entry member).key_ne_nil) escape
  rcases atGap with endsWithGap | startsWithGap
  · rcases List.eq_nil_or_concat' front with rfl | ⟨text, gap, rfl⟩
    · rw [empty, List.nil_append, List.nil_append]
    · have isGap := endsWithGap gap List.getLast?_concat
      rw [List.append_assoc, List.singleton_append, translateEscaped_append_gap words isGap,
        translateEscaped_append_gap words isGap, empty, List.append_assoc, List.singleton_append]
  · cases rest with
    | nil => rw [empty, List.append_nil, List.append_nil]
    | cons gap behind =>
        have isGap := startsWithGap gap rfl
        rw [translateEscaped_append_gap words isGap, translateEscaped_gap_cons words isGap]

/-- A word that has the letters of no key is left as it is. -/
theorem translateEscaped_of_noKey (words : ∀ entry ∈ entries, entry.IsWord) {word : List Char}
    (letters : ∀ c ∈ word, isWord c = true)
    (noKey : ∀ entry ∈ entries, ¬ SameLetters entry.key word) :
    translateEscaped entries escape word = word := by
  apply translateEscaped_of_forall_apply
  intro entry member
  rcases (words entry member).apply_word escape letters with same | ⟨isKey, _⟩
  · exact same
  · exact absurd isKey (noKey entry member)

end Parts

/-- If all keys are words, the two sides of a gap are translated each for itself, and a word
between gaps or ends of the text is left as it is if it has the letters of no key. -/
theorem translateEscaped_wordByWord {entries : List Entry}
    (words : ∀ entry ∈ entries, entry.key ≠ [] ∧ ∀ c ∈ entry.key, isWord c = true)
    (escape : List Char → List Char) :
    (∀ gap, isGap gap = true → ∀ text behind,
      translateEscaped entries escape (text ++ gap :: behind) =
        translateEscaped entries escape text ++ gap :: translateEscaped entries escape behind)
    ∧ ∀ before word after, (∀ c ∈ word, isWord c = true) →
      (∀ c ∈ before.getLast?, isGap c = true) → (∀ c ∈ after.head?, isGap c = true) →
      (∀ entry ∈ entries, ¬ SameLetters entry.key word) →
        translateEscaped entries escape (before ++ (word ++ after)) =
          translateEscaped entries escape before
            ++ (word ++ translateEscaped entries escape after) := by
  have areWords : ∀ entry ∈ entries, entry.IsWord := fun entry member =>
    ⟨(words entry member).1, (words entry member).2⟩
  constructor
  · intro gap isGap text behind
    exact translateEscaped_append_gap areWords isGap text behind
  · intro before word after letters endsWithGap startsWithGap noKey
    rw [translateEscaped_append areWords (.inl endsWithGap),
      translateEscaped_append areWords (.inr startsWithGap),
      translateEscaped_of_noKey areWords letters noKey]

/-- The first entry inserts the key of the second one next to gaps, and `errors` is neither. -/
theorem translateEscaped_wordByWord_cascade :
    let entries : List Entry :=
      [⟨"error".toList, "l'error (user)".toList⟩, ⟨"user".toList, "usuario".toList⟩]
    let escape := Gloss.Escape.inQuotes ['\'']
    (∀ entry ∈ entries, entry.key ≠ [] ∧ ∀ c ∈ entry.key, isWord c = true)
      ∧ translateEscaped entries escape ("User".toList ++ '-' :: "error".toList) =
        translateEscaped entries escape "User".toList
          ++ '-' :: translateEscaped entries escape "error".toList
      ∧ translateEscaped entries escape ("error(".toList ++ ("errors".toList ++ ")user".toList)) =
        translateEscaped entries escape "error(".toList
          ++ ("errors".toList ++ translateEscaped entries escape ")user".toList) := by
  intro entries escape
  have areWords : (entries.all fun entry => !entry.key.isEmpty && entry.key.all isWord) = true := by
    decide +kernel
  have words : ∀ entry ∈ entries, entry.key ≠ [] ∧ ∀ c ∈ entry.key, isWord c = true := by
    simpa using areWords
  have letters : ("errors".toList.all isWord) = true := by decide +kernel
  have gaps : isGap '-' = true ∧ isGap '(' = true ∧ isGap ')' = true := by decide +kernel
  have noKey : ∀ entry ∈ entries, ¬ SameLetters entry.key "errors".toList := by
    intro entry member same
    have length := (sameLetters_iff.mp same).1
    rcases List.mem_pair.mp member with rfl | rfl <;> exact absurd length (by decide)
  rcases translateEscaped_wordByWord words escape with ⟨atGap, aroundWord⟩
  refine ⟨words, atGap '-' gaps.1 _ _, aroundWord _ _ _ (List.all_eq_true.mp letters) ?_ ?_ noKey⟩
  · rintro _ ⟨⟩
    exact gaps.2.1
  · rintro _ ⟨⟩
    exact gaps.2.2

end CodeGloss.Glossary
