import CodeGloss.Proofs.Glossary.Substitution
import CodeGloss.Text.LineBreak

/-!
# Texts without a match

Where a key matches at no place of a text, the search finds nothing and the
substitution changes nothing. This carries over to any piece that is cut out of
the text between characters that are no word characters: the ends of such a piece
are no word edges that the whole text does not have.
-/

namespace CodeGloss.Glossary

open Text

namespace Matcher

variable {m : Matcher} {replace : List Char → List Char} {before : Option Char}

/-- Behind `before`, the key matches at no place of the text. -/
def Misses (m : Matcher) (before : Option Char) (text : List Char) : Prop :=
  ∀ front back, text = front ++ back → m.matchesAt (front.getLast?.or before) back = false

theorem misses_nil_iff : m.Misses before [] ↔ m.matchesAt before [] = false := by
  constructor
  · intro misses
    exact misses [] [] rfl
  · intro noMatch front back parts
    rcases List.append_eq_nil_iff.mp parts.symm with ⟨rfl, rfl⟩
    exact noMatch

theorem misses_cons_iff {c : Char} {rest : List Char} :
    m.Misses before (c :: rest) ↔
      m.matchesAt before (c :: rest) = false ∧ m.Misses (some c) rest := by
  have last : ∀ front : List Char,
      (c :: front).getLast?.or before = front.getLast?.or (some c) := by
    intro front
    rw [List.getLast?_cons]
    cases front.getLast? <;> rfl
  constructor
  · intro misses
    refine ⟨misses [] (c :: rest) rfl, ?_⟩
    rintro front back rfl
    rw [← last]
    exact misses (c :: front) back rfl
  · rintro ⟨noMatch, misses⟩ front back parts
    cases front with
    | nil =>
        rw [List.nil_append] at parts
        rw [← parts]
        exact noMatch
    | cons d front =>
        rw [List.cons_append, List.cons.injEq] at parts
        rcases parts with ⟨rfl, isRest⟩
        rw [last]
        exact misses front back isRest

/-- The search finds nothing if and only if the key matches nowhere. -/
theorem occurrencesFrom_eq_nil_iff (place : Nat) {text : List Char} :
    m.occurrencesFrom place before 0 text = [] ↔ m.Misses before text := by
  induction text generalizing place before with
  | nil =>
      rw [misses_nil_iff, occurrencesFrom]
      cases m.matchesAt before [] <;> simp
  | cons c rest ih =>
      rw [misses_cons_iff, occurrencesFrom, ← ih (place + 1)]
      cases m.matchesAt before (c :: rest) <;> simp

theorem occursIn_eq_false_iff {text : List Char} :
    m.occursIn text = false ↔ m.Misses none text := by
  rw [occursIn, Bool.not_eq_false', List.isEmpty_iff, occurrences, occurrencesFrom_eq_nil_iff]

theorem substituteFrom_of_misses {text : List Char} (misses : m.Misses before text) :
    m.substituteFrom replace before 0 text = text := by
  induction text generalizing before with
  | nil =>
      rw [misses_nil_iff] at misses
      simp [substituteFrom, misses]
  | cons c rest ih =>
      rcases misses_cons_iff.mp misses with ⟨noMatch, later⟩
      rw [substituteFrom_keep noMatch, ih later]

/-- A text that is cut out between characters that are no word characters has no match
if the whole text has none. -/
theorem Misses.of_append {before piece after : List Char} (nonempty : m.key ≠ [])
    (misses : m.Misses none (before ++ (piece ++ after)))
    (freeBefore : isWordAt before.getLast? = false) (freeAfter : isWordAt after.head? = false) :
    m.Misses none piece := by
  rintro front back rfl
  rw [Bool.eq_false_iff]
  intro isMatch
  have long := length_le_of_startsWithLetters (startsWithLetters_of_matchesAt isMatch)
  have length : (back.take m.key.length).length = m.key.length := by
    rw [List.length_take, Nat.min_eq_left long]
  have sameBefore : isWordAt ((before ++ front).getLast?.or none) =
      isWordAt (front.getLast?.or none) := by
    rw [List.getLast?_append, Option.or_none, Option.or_none]
    cases front.getLast? with
    | none => exact freeBefore
    | some c => rfl
  have sameAfter : isWordAt (back.drop m.key.length ++ after).head? =
      isWordAt (back.drop m.key.length).head? := by
    cases back.drop m.key.length with
    | nil => exact freeAfter
    | cons c rest => rfl
  have same := matchesAt_congr nonempty length sameBefore sameAfter
  rw [← List.append_assoc, List.take_append_drop, isMatch] at same
  have noMatch := misses (before ++ front) (back ++ after) (by simp only [List.append_assoc])
  rw [noMatch] at same
  contradiction

theorem isWordAt_head?_unifyBreaks (text : List Char) :
    isWordAt (unifyBreaks text).head? = isWordAt text.head? := by
  fun_cases unifyBreaks text with
  | case1 => rfl
  | case2 rest => rfl
  | case3 rest _ => rfl
  | case4 c rest _ _ => rfl

/-- A key without a line feed has no new match where line breaks become line feeds. -/
theorem Misses.unifyBreaks {before' : Option Char} {text : List Char} (nonempty : m.key ≠ [])
    (noBreak : '\n' ∉ m.key) (same : isWordAt before' = isWordAt before)
    (misses : m.Misses before text) : m.Misses before' (unifyBreaks text) := by
  have noMatchAtBreak (before : Option Char) (rest : List Char) :
      m.matchesAt before ('\n' :: rest) = false :=
    matchesAt_of_mark nonempty (by decide) noBreak before rest
  fun_induction Text.unifyBreaks text generalizing before before' with
  | case1 => exact misses_nil_iff.mpr (matchesAt_nil nonempty before')
  | case2 rest ih =>
      have behind := (misses_cons_iff.mp (misses_cons_iff.mp misses).2).2
      exact misses_cons_iff.mpr ⟨noMatchAtBreak _ _, ih rfl behind⟩
  | case3 rest _ ih =>
      exact misses_cons_iff.mpr ⟨noMatchAtBreak _ _, ih (by decide) (misses_cons_iff.mp misses).2⟩
  | case4 c rest _ other ih =>
      rw [misses_cons_iff] at misses ⊢
      refine ⟨?_, ih rfl misses.2⟩
      rw [← Bool.not_eq_true]
      intro isMatch
      obtain ⟨matched, after, parts, length⟩ := exists_matched isMatch
      have starts := startsWithLetters_of_matchesAt isMatch
      rw [parts, startsWithLetters_append _ length] at starts
      have noBreakMatched : '\n' ∉ matched := fun member =>
        noBreak (mem_key_of_mem_matched starts length member (by decide))
      have unified : Text.unifyBreaks (c :: rest) = matched ++ after := by
        rw [unifyBreaks_cons (fun isReturn => other isReturn), parts]
      obtain ⟨behind, inText, rfl⟩ := exists_of_unifyBreaks_eq_append noBreakMatched unified
      rw [parts, matchesAt_congr nonempty length same (isWordAt_head?_unifyBreaks behind),
        ← inText, misses.1] at isMatch
      contradiction

end Matcher

/-! ## Dictionaries -/

/-- Where no entry changes a text, the dictionary does not. -/
theorem translateEscaped_of_forall_apply {entries : List Entry} {escape : List Char → List Char}
    {text : List Char} (kept : ∀ entry ∈ entries, entry.apply escape text = text) :
    translateEscaped entries escape text = text := by
  induction entries with
  | nil => rfl
  | cons entry entries ih =>
      rcases List.forall_mem_cons.mp kept with ⟨first, later⟩
      rw [translateEscaped_cons, first, ih later]

theorem anyOccurs_eq_false_iff {entries : List Entry} {text : List Char} :
    anyOccurs entries text = false ↔ ∀ entry ∈ entries, entry.matcher.Misses none text := by
  simp only [anyOccurs, List.any_eq_false, Bool.not_eq_true, Matcher.occursIn_eq_false_iff]

section NoMatch

variable {entries : List Entry} {text : List Char}

/-- If no entry has a match in a text, nothing that is cut out of it between characters that
are no word characters is changed. -/
theorem translateEscaped_of_append {before piece after : List Char}
    (keys : ∀ entry ∈ entries, entry.key ≠ []) (escape : List Char → List Char)
    (noMatch : anyOccurs entries text = false) (parts : text = before ++ (piece ++ after))
    (freeBefore : isWordAt before.getLast? = false) (freeAfter : isWordAt after.head? = false) :
    translateEscaped entries escape piece = piece := by
  subst parts
  apply translateEscaped_of_forall_apply
  intro entry member
  have misses := anyOccurs_eq_false_iff.mp noMatch entry member
  exact Matcher.substituteFrom_of_misses
    (misses.of_append (m := entry.matcher) (keys entry member) freeBefore freeAfter)

/-- If no entry has a match in a text, the text is not changed. -/
theorem translateEscaped_of_not_anyOccurs (escape : List Char → List Char)
    (noMatch : anyOccurs entries text = false) : translateEscaped entries escape text = text := by
  apply translateEscaped_of_forall_apply
  intro entry member
  exact Matcher.substituteFrom_of_misses (anyOccurs_eq_false_iff.mp noMatch entry member)

/-- If no entry has a match in a text, none has where line breaks become line feeds, for keys
without one. -/
theorem anyOccurs_unifyBreaks (keys : ∀ entry ∈ entries, entry.key ≠ [] ∧ '\n' ∉ entry.key)
    (noMatch : anyOccurs entries text = false) :
    anyOccurs entries (unifyBreaks text) = false := by
  rw [anyOccurs_eq_false_iff] at noMatch ⊢
  intro entry member
  obtain ⟨nonempty, noBreak⟩ := keys entry member
  exact Matcher.Misses.unifyBreaks (m := entry.matcher) nonempty noBreak rfl (noMatch entry member)

end NoMatch

end CodeGloss.Glossary
