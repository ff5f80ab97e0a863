import CodeGloss.Glossary.Translate
import CodeGloss.Proofs.Text.Mark
import Mathlib.Data.List.Forall2

/-!
# Substitution match by match

A matcher substitutes with a count of the characters that its last match still
covers. Here the same substitution is a relation without a count: a match is
taken whole, and a character where no match starts stays. For a key that is not
empty the relation holds of exactly one output, so what is proved by induction
on it holds of the substitution.
-/

namespace CodeGloss.Glossary

open Text

/-! ## Letters of a key -/

theorem length_le_of_startsWithLetters {key text : List Char}
    (starts : startsWithLetters key text = true) : key.length ≤ text.length := by
  induction key generalizing text with
  | nil => simp
  | cons k key ih =>
      cases text with
      | nil => simp [startsWithLetters] at starts
      | cons c text =>
          rw [startsWithLetters, Bool.and_eq_true] at starts
          exact Nat.succ_le_succ (ih starts.2)

/-- What lies behind the letters of the key does not matter. -/
theorem startsWithLetters_append {key matched : List Char} (rest : List Char)
    (length : matched.length = key.length) :
    startsWithLetters key (matched ++ rest) = startsWithLetters key matched := by
  induction key generalizing matched with
  | nil => rfl
  | cons k key ih =>
      cases matched with
      | nil => simp at length
      | cons c matched =>
          rw [List.cons_append, startsWithLetters, startsWithLetters,
            ih (Nat.succ.inj length)]

/-- The two texts are the same letter by letter, whatever the case of each. -/
def SameLetters (key text : List Char) : Prop :=
  List.Forall₂ (fun k c => sameLetter k c = true) key text

/-- A text of a key's letters has its length and starts with them. -/
theorem sameLetters_iff {key text : List Char} :
    SameLetters key text ↔ text.length = key.length ∧ startsWithLetters key text = true := by
  unfold SameLetters
  induction key generalizing text with
  | nil => cases text <;> simp [startsWithLetters]
  | cons k key ih =>
      cases text with
      | nil => simp [startsWithLetters]
      | cons c text =>
          rw [List.forall₂_cons, ih, startsWithLetters, Bool.and_eq_true, List.length_cons,
            List.length_cons, Nat.succ_inj]
          exact and_left_comm

/-- What a key covers has characters, as the key has. -/
theorem ne_nil_of_matched {key matched : List Char} (nonempty : key ≠ [])
    (length : matched.length = key.length) : matched ≠ [] := by
  rintro rfl
  exact nonempty (List.length_eq_zero_iff.mp length.symm)

/-- What lies behind the letters of a key is shorter than the whole. -/
theorem length_lt_of_matched {key matched : List Char} (nonempty : key ≠ [])
    (length : matched.length = key.length) (rest : List Char) :
    rest.length < (matched ++ rest).length := by
  rw [List.length_append]
  exact Nat.lt_add_of_pos_left
    (List.length_pos_iff.mpr (ne_nil_of_matched nonempty length))

/-- A mark that is matched stands in the key. -/
theorem mem_key_of_mem_matched {key matched : List Char} {c : Char}
    (starts : startsWithLetters key matched = true) (length : matched.length = key.length)
    (member : c ∈ matched) (mark : isMark c = true) : c ∈ key := by
  induction key generalizing matched with
  | nil =>
      rw [List.length_nil, List.length_eq_zero_iff] at length
      simp [length] at member
  | cons k key ih =>
      cases matched with
      | nil => simp at member
      | cons first matched =>
          rw [startsWithLetters, Bool.and_eq_true] at starts
          rcases List.mem_cons.mp member with rfl | later
          · rw [eq_of_sameLetter_of_isMark starts.1 mark]
            exact List.mem_cons_self
          · exact List.mem_cons_of_mem k (ih starts.2 (Nat.succ.inj length) later)

namespace Matcher

variable {m : Matcher} {replace : List Char → List Char} {before : Option Char}

/-- No match starts at a mark that the key does not have. -/
theorem matchesAt_of_mark {c : Char} (nonempty : m.key ≠ []) (mark : isMark c = true)
    (absent : c ∉ m.key) (before : Option Char) (rest : List Char) :
    m.matchesAt before (c :: rest) = false := by
  rcases List.exists_cons_of_ne_nil nonempty with ⟨k, key, isKey⟩
  have differs : sameLetter k c = false := by
    rw [Bool.eq_false_iff]
    intro same
    apply absent
    rw [isKey, ← eq_of_sameLetter_of_isMark same mark]
    exact List.mem_cons_self
  simp [matchesAt, isKey, startsWithLetters, differs]

theorem matchesAt_nil (nonempty : m.key ≠ []) (before : Option Char) :
    m.matchesAt before [] = false := by
  rcases List.exists_cons_of_ne_nil nonempty with ⟨k, key, isKey⟩
  simp [matchesAt, isKey, startsWithLetters]

theorem startsWithLetters_of_matchesAt {text : List Char} (isMatch : m.matchesAt before text = true) :
    startsWithLetters m.key text = true := by
  rw [matchesAt, Bool.and_eq_true] at isMatch
  exact isMatch.1

/-- A match covers as many characters as the key has. -/
theorem exists_matched {text : List Char} (isMatch : m.matchesAt before text = true) :
    ∃ matched rest, text = matched ++ rest ∧ matched.length = m.key.length := by
  have long := length_le_of_startsWithLetters (startsWithLetters_of_matchesAt isMatch)
  refine ⟨text.take m.key.length, text.drop m.key.length,
    (List.take_append_drop m.key.length text).symm, ?_⟩
  rw [List.length_take, Nat.min_eq_left long]

/-- A match depends on what it covers and on whether word characters stand beside
it. -/
theorem matchesAt_congr {before' : Option Char} {matched rest rest' : List Char}
    (nonempty : m.key ≠ []) (length : matched.length = m.key.length)
    (sameBefore : isWordAt before' = isWordAt before)
    (sameAfter : isWordAt rest'.head? = isWordAt rest.head?) :
    m.matchesAt before' (matched ++ rest') = m.matchesAt before (matched ++ rest) := by
  rw [matchesAt, matchesAt, startsWithLetters_append _ length, startsWithLetters_append _ length]
  congr 1
  cases matched with
  | nil => exact absurd (List.length_eq_zero_iff.mp length.symm) nonempty
  | cons c matched =>
      have last : (c :: matched).getLast? = some (matched.getLast?.getD c) := List.getLast?_cons
      cases m.surroundings <;>
        simp [surroundedAt, ← length, beforeEnd, last, wordEdge, sameBefore, sameAfter]

/-! ## The substitution as a relation -/

/-- Behind `before`, a text turns into an output. -/
inductive Substitutes (m : Matcher) (replace : List Char → List Char) :
    Option Char → List Char → List Char → Prop
  | done (before : Option Char) : Substitutes m replace before [] []
  | keep {before : Option Char} {c : Char} {rest out : List Char}
      (noMatch : m.matchesAt before (c :: rest) = false)
      (tail : Substitutes m replace (some c) rest out) :
      Substitutes m replace before (c :: rest) (c :: out)
  | hit {before : Option Char} {matched rest out : List Char}
      (length : matched.length = m.key.length)
      (isMatch : m.matchesAt before (matched ++ rest) = true)
      (tail : Substitutes m replace matched.getLast? rest out) :
      Substitutes m replace before (matched ++ rest) (replace matched ++ out)

/-- Characters that a match still covers are passed over. -/
theorem substituteFrom_covered (before : Option Char) (covered rest : List Char) :
    m.substituteFrom replace before covered.length (covered ++ rest) =
      m.substituteFrom replace (covered.getLast?.or before) 0 rest := by
  induction covered generalizing before with
  | nil => rfl
  | cons c covered ih =>
      rw [List.length_cons, List.cons_append, substituteFrom, ih, List.getLast?_cons]
      cases covered.getLast? <;> rfl

theorem substituteFrom_nil (nonempty : m.key ≠ []) (before : Option Char) :
    m.substituteFrom replace before 0 [] = [] := by
  simp [substituteFrom, matchesAt_nil nonempty]

theorem substituteFrom_keep {c : Char} {rest : List Char}
    (noMatch : m.matchesAt before (c :: rest) = false) :
    m.substituteFrom replace before 0 (c :: rest) =
      c :: m.substituteFrom replace (some c) 0 rest := by
  simp [substituteFrom, noMatch]

theorem substituteFrom_hit {matched rest : List Char} (nonempty : m.key ≠ [])
    (length : matched.length = m.key.length)
    (isMatch : m.matchesAt before (matched ++ rest) = true) :
    m.substituteFrom replace before 0 (matched ++ rest) =
      replace matched ++ m.substituteFrom replace matched.getLast? 0 rest := by
  cases matched with
  | nil => exact absurd (List.length_eq_zero_iff.mp length.symm) nonempty
  | cons c matched =>
      have isEmpty : m.key.isEmpty = false := by simpa using nonempty
      have covered : m.key.length - 1 = matched.length := by
        rw [← length, List.length_cons, Nat.add_sub_cancel]
      have whole : (c :: (matched ++ rest)).take m.key.length = c :: matched := by
        rw [← length, ← List.cons_append, List.take_left]
      rw [List.cons_append] at isMatch ⊢
      rw [substituteFrom, if_pos isMatch, whole, covered, substituteFrom_covered, isEmpty,
        List.getLast?_cons]
      cases matched.getLast? <;> simp

/-- The substitution is what the relation describes. -/
theorem substitutes_substituteFrom (nonempty : m.key ≠ []) (before : Option Char)
    (text : List Char) :
    Substitutes m replace before text (m.substituteFrom replace before 0 text) := by
  induction h : text.length using Nat.strongRecOn generalizing before text with
  | ind size ih =>
      subst h
      cases isMatch : m.matchesAt before text with
      | true =>
          rcases exists_matched isMatch with ⟨matched, rest, rfl, length⟩
          have shorter := length_lt_of_matched nonempty length rest
          rw [substituteFrom_hit nonempty length isMatch]
          exact .hit length isMatch (ih _ shorter _ _ rfl)
      | false =>
          cases text with
          | nil =>
              rw [substituteFrom_nil nonempty]
              exact .done before
          | cons c rest =>
              rw [substituteFrom_keep isMatch]
              exact .keep isMatch (ih _ (Nat.lt_succ_self _) _ _ rfl)

/-- The relation holds of one output alone. -/
theorem Substitutes.eq_substituteFrom {text out : List Char} (nonempty : m.key ≠ [])
    (run : Substitutes m replace before text out) :
    out = m.substituteFrom replace before 0 text := by
  induction run with
  | done before => rw [substituteFrom_nil nonempty]
  | keep noMatch _ ih => rw [substituteFrom_keep noMatch, ih]
  | hit length isMatch _ ih => rw [substituteFrom_hit nonempty length isMatch, ih]

/-- Where no match starts, the first character stays. -/
theorem Substitutes.exists_of_noMatch {c : Char} {rest out : List Char} (nonempty : m.key ≠ [])
    (noMatch : m.matchesAt before (c :: rest) = false)
    (run : Substitutes m replace before (c :: rest) out) :
    ∃ outRest, out = c :: outRest ∧ Substitutes m replace (some c) rest outRest :=
  ⟨_, (run.eq_substituteFrom nonempty).trans (substituteFrom_keep noMatch),
    substitutes_substituteFrom nonempty (some c) rest⟩

theorem substitutes_iff {text out : List Char} (nonempty : m.key ≠ []) :
    Substitutes m replace none text out ↔ m.substitute replace text = out := by
  constructor
  · intro run
    exact (run.eq_substituteFrom nonempty).symm
  · rintro rfl
    exact substitutes_substituteFrom nonempty none text

end Matcher

/-! ## From one entry to a dictionary -/

/-- What every entry keeps, a translation keeps. -/
theorem translateEscaped_induction {entries : List Entry} {escape : List Char → List Char}
    (Holds : List Char → Prop) {text : List Char}
    (step : ∀ entry ∈ entries, ∀ text, Holds text → Holds (entry.apply escape text))
    (start : Holds text) : Holds (translateEscaped entries escape text) := by
  induction entries generalizing text with
  | nil => exact start
  | cons entry entries ih =>
      rw [translateEscaped_cons]
      exact ih (fun later laterMem => step later (List.mem_cons_of_mem entry laterMem))
        (step entry List.mem_cons_self text start)

/-- A character of the output was there before or is inserted, also where an empty key
matches. -/
theorem Matcher.mem_of_mem_substituteFrom {m : Matcher} {replace : List Char → List Char}
    {before : Option Char} {covered : Nat} {text : List Char} {x : Char}
    (member : x ∈ m.substituteFrom replace before covered text) :
    x ∈ text ∨ ∃ matched, x ∈ replace matched := by
  induction text generalizing before covered with
  | nil =>
      cases covered <;> rw [substituteFrom] at member <;> split at member
      · exact .inr ⟨[], member⟩
      · contradiction
      · exact .inr ⟨[], member⟩
      · contradiction
  | cons c rest ih =>
      have later : ∀ {before covered}, x ∈ m.substituteFrom replace before covered rest →
          x ∈ c :: rest ∨ ∃ matched, x ∈ replace matched := fun inRest =>
        (ih inRest).imp_left (List.mem_cons_of_mem c)
      cases covered with
      | succ covered =>
          rw [substituteFrom] at member
          exact later member
      | zero =>
          rw [substituteFrom] at member
          split at member
          · rw [List.mem_append, List.mem_append] at member
            rcases member with (inserted | kept) | inRest
            · exact .inr ⟨_, inserted⟩
            · split at kept
              · exact .inl (List.mem_singleton.mp kept ▸ List.mem_cons_self)
              · contradiction
            · exact later inRest
          · rcases List.mem_cons.mp member with rfl | inRest
            · exact .inl List.mem_cons_self
            · exact later inRest

/-- What neither the text nor an insertion has, the translation does not have. -/
theorem not_mem_translateEscaped {entries : List Entry} {escape : List Char → List Char}
    {text : List Char} {x : Char} (absent : x ∉ text)
    (inserted : ∀ entry ∈ entries, ∀ sample, x ∉ escape (matchCase entry.translation sample)) :
    x ∉ translateEscaped entries escape text := by
  apply translateEscaped_induction (fun text => x ∉ text) _ absent
  intro entry isEntry text absent member
  rcases Matcher.mem_of_mem_substituteFrom member with inText | ⟨matched, inInsertion⟩
  · exact absent inText
  · exact inserted entry isEntry matched inInsertion

/-- There is nothing to translate in the empty text. -/
theorem translateEscaped_empty {entries : List Entry} (keys : ∀ entry ∈ entries, entry.key ≠ [])
    (escape : List Char → List Char) : translateEscaped entries escape [] = [] := by
  apply translateEscaped_induction (fun text => text = [])
  · rintro entry member _ rfl
    exact entry.matcher.substituteFrom_nil (keys entry member) none
  · rfl

/-- Escapes that agree on all that is inserted give one translation. -/
theorem translateEscaped_congr {entries : List Entry} {escape other : List Char → List Char}
    (text : List Char)
    (agree : ∀ entry ∈ entries, ∀ sample,
      escape (matchCase entry.translation sample) = other (matchCase entry.translation sample)) :
    translateEscaped entries escape text = translateEscaped entries other text := by
  induction entries generalizing text with
  | nil => rfl
  | cons entry entries ih =>
      have same : entry.insertion escape = entry.insertion other :=
        funext (agree entry List.mem_cons_self)
      rw [translateEscaped_cons, translateEscaped_cons, Entry.apply, Entry.apply, same]
      exact ih _ fun later laterMem => agree later (List.mem_cons_of_mem entry laterMem)

end CodeGloss.Glossary
