import CodeGloss.Proofs.Glossary.Frame

/-!
# Reading a translated text

A reader goes through a text with a state and may stop on the way. Some texts lead it
home: from whatever state they are read to their end, and behind them the reader is
in one and the same state. An entry that takes out a text which leads home, and puts
in another, changes nothing for the reader behind it. So a reader cannot tell a text
from its translation, if all that is matched and all that is inserted leads home, and
what it awaits at the start holds of both or of neither.
-/

namespace CodeGloss.Glossary

open Text

variable {σ : Type} {step : σ → Char → Option σ} {home : σ}

/-! ## What a reader awaits -/

/-- What a reader awaits is what leads it to a state where it may rest, if one step takes
one character off it. -/
theorem exists_foldlM_iff {Awaits : σ → List Char → Prop} {Rests : σ → Prop}
    (awaits_nil : ∀ state, Awaits state [] ↔ Rests state)
    (awaits_cons : ∀ state c text,
      Awaits state (c :: text) ↔ ∃ next ∈ step state c, Awaits next text)
    (state : σ) (text : List Char) :
    (∃ last ∈ text.foldlM step state, Rests last) ↔ Awaits state text := by
  induction text generalizing state with
  | nil =>
      rw [awaits_nil, List.foldlM_nil]
      simp
  | cons c text ih =>
      rw [awaits_cons, List.foldlM_cons]
      cases next : step state c with
      | none => simp
      | some next => simp [← ih]

/-! ## Texts that lead home -/

/-- Whatever was read before, the text is read to its end and leaves the reader at
home. -/
def LeadsHome (step : σ → Char → Option σ) (home : σ) (text : List Char) : Prop :=
  ∀ state, text.foldlM step state = some home

/-- Characters that each lead home lead home together. -/
theorem leadsHome_of_forall {text : List Char} (nonempty : text ≠ [])
    (ordinary : ∀ c ∈ text, ∀ state, step state c = some home) : LeadsHome step home text := by
  induction text with
  | nil => contradiction
  | cons c rest ih =>
      rcases List.forall_mem_cons.mp ordinary with ⟨first, others⟩
      intro state
      rw [List.foldlM_cons, first state]
      cases rest with
      | nil => rfl
      | cons d rest => exact ih (List.cons_ne_nil d rest) others home

theorem Matcher.Substitutes.foldlM_eq {m : Matcher} {replace : List Char → List Char}
    {before : Option Char} {text out : List Char}
    (matchedHome : ∀ matched, startsWithLetters m.key matched = true →
      matched.length = m.key.length → LeadsHome step home matched)
    (insertedHome : ∀ matched, LeadsHome step home (replace matched))
    (run : m.Substitutes replace before text out) (state : σ) :
    out.foldlM step state = text.foldlM step state := by
  induction run generalizing state with
  | done before => rfl
  | @keep before c rest out _ _ ih =>
      rw [List.foldlM_cons, List.foldlM_cons]
      exact congrArg (step state c).bind (funext ih)
  | @hit before matched rest out length isMatch _ ih =>
      have starts := startsWithLetters_of_matchesAt isMatch
      rw [startsWithLetters_append _ length] at starts
      rw [List.foldlM_append, List.foldlM_append, insertedHome matched state,
        matchedHome matched starts length state]
      exact ih home

/-- A reader with some special characters does not notice a translation, if no key has
a special character and every insertion leads home. -/
theorem foldlM_translateEscaped {special : Char → Bool} {entries : List Entry}
    {escape : List Char → List Char} (marks : ∀ c, special c = true → isMark c = true)
    (ordinary : ∀ c, special c = false → ∀ state, step state c = some home)
    (keys : ∀ entry ∈ entries, entry.key ≠ [] ∧ ∀ c ∈ entry.key, special c = false)
    (inserted : ∀ entry ∈ entries, ∀ sample,
      LeadsHome step home (escape (matchCase entry.translation sample)))
    (text : List Char) (state : σ) :
    (translateEscaped entries escape text).foldlM step state = text.foldlM step state := by
  apply translateEscaped_induction (fun out => out.foldlM step state = text.foldlM step state)
  · intro entry member before same
    rcases keys entry member with ⟨nonempty, keyFree⟩
    have matchedHome : ∀ matched, startsWithLetters entry.key matched = true →
        matched.length = entry.key.length → LeadsHome step home matched := by
      intro matched starts length
      apply leadsHome_of_forall
      · exact ne_nil_of_matched nonempty length
      · intro c inside
        apply ordinary
        rw [Bool.eq_false_iff]
        intro isSpecial
        have inKey := mem_key_of_mem_matched starts length inside (marks c isSpecial)
        rw [keyFree c inKey] at isSpecial
        contradiction
    have run := (Matcher.substitutes_iff (m := entry.matcher) nonempty).mpr
      (Eq.refl (entry.apply escape before))
    rw [run.foldlM_eq matchedHome (inserted entry member) state, same]
  · rfl

/-- So a translation is awaited exactly where the text was. -/
theorem awaits_translateEscaped_iff {Awaits : σ → List Char → Prop} {Rests : σ → Prop}
    {special : Char → Bool} {entries : List Entry} {escape : List Char → List Char}
    (awaits_nil : ∀ state, Awaits state [] ↔ Rests state)
    (awaits_cons : ∀ state c text,
      Awaits state (c :: text) ↔ ∃ next ∈ step state c, Awaits next text)
    (marks : ∀ c, special c = true → isMark c = true)
    (ordinary : ∀ c, special c = false → ∀ state, step state c = some home)
    (keys : ∀ entry ∈ entries, entry.key ≠ [] ∧ ∀ c ∈ entry.key, special c = false)
    (inserted : ∀ entry ∈ entries, ∀ sample,
      LeadsHome step home (escape (matchCase entry.translation sample)))
    (state : σ) (text : List Char) :
    Awaits state (translateEscaped entries escape text) ↔ Awaits state text := by
  rw [← exists_foldlM_iff awaits_nil awaits_cons, ← exists_foldlM_iff awaits_nil awaits_cons,
    foldlM_translateEscaped marks ordinary keys inserted]

/-- A text that does not end with a character has no ending that does. -/
theorem getLast?_ne_of_suffix {ending text : List Char} {c : Char} (suffix : ending <:+ text)
    (differs : text.getLast? ≠ some c) : ending.getLast? ≠ some c := by
  rcases suffix with ⟨front, rfl⟩
  intro last
  apply differs
  rw [List.getLast?_append, last, Option.some_or]

end CodeGloss.Glossary
