import CodeGloss.Glossary.Vocabulary
import CodeGloss.Proofs.Glossary.Dictionary
import CodeGloss.Proofs.Glossary.Occurrence
import CodeGloss.Proofs.Glossary.WordKey

/-!
# Translations that are not translated again

A dictionary is settled when its keys are words and no entry changes what an
entry inserts. A word is then left as it is by all entries, or it turns into an
insertion, which all entries leave as it is. Since the text between gaps is
translated word by word, a second translation finds nothing to do.
-/

namespace CodeGloss.Glossary

open Text

/-- The forms in which an entry inserts its translation for a sample with characters. -/
def Entry.forms (entry : Entry) : List (List Char) :=
  [upper entry.translation, lower entry.translation, capitalize entry.translation]

theorem Entry.insertion_mem_forms (entry : Entry) {sample : List Char} (nonempty : sample ≠ []) :
    entry.insertion id sample ∈ entry.forms := by
  rw [insertion, id, matchCase, if_neg (by simpa using nonempty), forms]
  split
  · exact List.mem_cons_self
  · split
    · exact List.mem_cons_of_mem _ List.mem_cons_self
    · exact List.mem_cons_of_mem _ (List.mem_cons_of_mem _ List.mem_cons_self)

/-- The keys are words, and no entry changes a form of a translation. -/
structure Settled (entries : List Entry) : Prop where
  words : ∀ entry ∈ entries, entry.IsWord
  forms : ∀ entry ∈ entries, ∀ other ∈ entries, ∀ form ∈ other.forms, entry.apply id form = form

/-- Whether a dictionary is settled, read off the words of the forms. -/
def isSettled (entries : List Entry) : Bool :=
  entries.all fun entry =>
    !entry.key.isEmpty && entry.key.all isWord && entry.forms.all fun form =>
      !form.contains iotaSubscript && entries.all fun other => other.sparesWords form

/-- A dictionary is settled if its candidates propose settled entries. -/
theorem settled_dictionaryOf {terms : List Term} {vocabulary : Vocabulary}
    (settled : isSettled ((candidates terms vocabulary).filterMap Candidate.entry?) = true) :
    Settled (dictionaryOf terms vocabulary) := by
  simp only [isSettled, List.all_eq_true, Bool.and_eq_true, Bool.not_eq_true',
    List.isEmpty_eq_false_iff, List.contains_eq_mem, decide_eq_false_iff_not] at settled
  have words : ∀ entry ∈ dictionaryOf terms vocabulary, entry.IsWord := by
    intro entry member
    rcases settled entry (mem_proposed_of_mem_dictionaryOf member) with ⟨⟨nonempty, letters⟩, _⟩
    exact ⟨nonempty, letters⟩
  refine ⟨words, ?_⟩
  intro entry member other otherMem form isForm
  have isProposed := mem_proposed_of_mem_dictionaryOf otherMem
  rcases (settled other isProposed).2 form isForm with ⟨noIota, spared⟩
  exact (words entry member).apply_of_sparesWords noIota
    (spared entry (mem_proposed_of_mem_dictionaryOf member))

/-- The built-in words have translations that are not translated again. -/
theorem settled_builtIn : Settled (dictionaryOf [] builtInVocabulary) :=
  settled_dictionaryOf (by decide +kernel)

namespace Settled

variable {entries : List Entry} {word text : List Char}

/-- A form of a translation is its own translation. -/
theorem translate_form (settled : Settled entries) {entry : Entry} {form : List Char}
    (isEntry : entry ∈ entries) (isForm : form ∈ entry.forms) : translate entries form = form :=
  translateEscaped_of_forall_apply fun other isOther =>
    settled.forms other isOther entry isEntry form isForm

/-- A word is left alone, or it turns into a form of a translation. The entries are those
still to come, of all entries. -/
theorem translate_word_cases (settled : Settled entries) (letters : ∀ c ∈ word, isWord c = true)
    {rest : List Entry} (later : ∀ entry ∈ rest, entry ∈ entries) :
    (∀ entry ∈ rest, entry.apply id word = word)
      ∨ ∃ entry ∈ entries, translate rest word ∈ entry.forms := by
  induction rest with
  | nil => exact .inl (by simp)
  | cons entry rest ih =>
      rcases List.forall_mem_cons.mp later with ⟨isEntry, later⟩
      have step : translate (entry :: rest) word = translate rest (entry.apply id word) :=
        translateEscaped_cons entry rest id word
      have isWordKey := settled.words entry isEntry
      rcases isWordKey.apply_word id letters with same | ⟨isKey, replaced⟩
      · rw [step, same]
        rcases ih later with alone | found
        · exact .inl (List.forall_mem_cons.mpr ⟨same, alone⟩)
        · exact .inr found
      · have nonempty : word ≠ [] := by
          rintro rfl
          exact isWordKey.key_ne_nil (List.forall₂_nil_right_iff.mp isKey)
        have isForm := entry.insertion_mem_forms nonempty
        have stays : translate rest (entry.insertion id word) = entry.insertion id word :=
          translateEscaped_of_forall_apply fun other isOther =>
            settled.forms other (later other isOther) entry isEntry _ isForm
        rw [step, replaced, stays]
        exact .inr ⟨entry, isEntry, isForm⟩

theorem translate_translate_word (settled : Settled entries)
    (letters : ∀ c ∈ word, isWord c = true) :
    translate entries (translate entries word) = translate entries word := by
  rcases settled.translate_word_cases letters fun _ member => member with
    alone | ⟨entry, isEntry, isForm⟩
  · have same : translate entries word = word := translateEscaped_of_forall_apply alone
    rw [same, same]
  · exact settled.translate_form isEntry isForm

/-- What a settled dictionary has translated, it leaves alone. -/
theorem translate_translate (settled : Settled entries) (noIota : iotaSubscript ∉ text) :
    translate entries (translate entries text) = translate entries text := by
  refine words_induction (motive := fun text =>
    translate entries (translate entries text) = translate entries text) noIota ?_ ?_
  · intro word letters
    exact settled.translate_translate_word letters
  · intro word gap behind letters isGap _ ih
    have split : ∀ word behind, translate entries (word ++ gap :: behind) =
        translate entries word ++ gap :: translate entries behind :=
      translateEscaped_append_gap settled.words isGap
    rw [split, split, settled.translate_translate_word letters, ih]

end Settled

end CodeGloss.Glossary
