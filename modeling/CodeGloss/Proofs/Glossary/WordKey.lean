import CodeGloss.Proofs.Glossary.Substitution
import CodeGloss.Proofs.Text.WordLetter

/-!
# Keys that are words

A key of word characters matches nothing but word characters, and the iota
subscript where the key has an iota. Any other character is a gap: no match
crosses it and no match looks past it. So the text on either side of a gap is
translated as if it stood alone, and a word between gaps is either replaced as a
whole or left as it is.
-/

namespace CodeGloss.Glossary

open Text

/-- Whether no key of word characters has a letter that matches here. -/
def isGap (c : Char) : Bool :=
  !isWord c && c != iotaSubscript

theorem isGap_iff {c : Char} : isGap c = true ↔ isWord c = false ∧ c ≠ iotaSubscript := by
  simp [isGap]

/-- A key with characters, all of them word characters. -/
structure Entry.IsWord (entry : Entry) : Prop where
  key_ne_nil : entry.key ≠ []
  word : ∀ c ∈ entry.key, isWord c = true

theorem isWordKey_of_forall {key : List Char} (nonempty : key ≠ [])
    (words : ∀ c ∈ key, isWord c = true) : isWordKey key = true := by
  have noBreak : key.getLast? ≠ some '\n' := by
    intro last
    exact absurd (words '\n' (List.mem_of_getLast? last)) (by decide +kernel)
  rw [isWordKey, if_neg noBreak, Bool.and_eq_true, List.all_eq_true]
  exact ⟨by simpa using nonempty, words⟩

/-- A word is matched at word edges. -/
theorem Entry.IsWord.surroundings {entry : Entry} (word : entry.IsWord) :
    entry.matcher.surroundings = .wordEdges := by
  rw [matcher, Matcher.ofKey, isWordKey_of_forall word.key_ne_nil word.word, if_pos rfl]

/-! ## Gaps -/

section Gaps

variable {key before after : List Char} {gap : Char}

theorem sameLetter_of_isGap {k : Char} (word : isWord k = true) (isGap : isGap gap = true) :
    sameLetter k gap = false := by
  rw [isGap_iff] at isGap
  rw [Bool.eq_false_iff]
  intro same
  rcases isWord_of_sameLetter word same with isWord | isIota
  · rw [isGap.1] at isWord
    contradiction
  · exact isGap.2 isIota

/-- A word does not reach beyond a gap. -/
theorem startsWithLetters_append_gap (word : ∀ c ∈ key, isWord c = true)
    (isGap : isGap gap = true) :
    startsWithLetters key (before ++ gap :: after) = startsWithLetters key before := by
  induction key generalizing before with
  | nil => cases before <;> rfl
  | cons k key ih =>
      rcases List.forall_mem_cons.mp word with ⟨first, later⟩
      cases before with
      | nil =>
          show (sameLetter k gap && startsWithLetters key after) = false
          rw [sameLetter_of_isGap first isGap, Bool.false_and]
      | cons c before => rw [List.cons_append, startsWithLetters, startsWithLetters, ih later]

end Gaps

namespace Matcher

variable {m : Matcher} {replace : List Char → List Char} {before before' : Option Char} {gap : Char}

/-- Whether there is a match depends on the character before only in that it may be a word
character. -/
theorem matchesAt_congr_before (same : isWordAt before' = isWordAt before) (text : List Char) :
    m.matchesAt before' text = m.matchesAt before text := by
  have last : isWordAt (beforeEnd before' text m.key.length) =
      isWordAt (beforeEnd before text m.key.length) := by
    unfold beforeEnd
    cases (text.take m.key.length).getLast? with
    | some c => rfl
    | none => exact same
  rw [matchesAt, matchesAt]
  cases m.surroundings <;> simp only [surroundedAt, wordEdge, same, last]

/-- A gap behind a text changes no match in it. -/
theorem matchesAt_append_gap (nonempty : m.key ≠ []) (word : ∀ c ∈ m.key, isWord c = true)
    (isGap : isGap gap = true) (before : Option Char) (text behind : List Char) :
    m.matchesAt before (text ++ gap :: behind) = m.matchesAt before text := by
  cases starts : startsWithLetters m.key text with
  | false =>
      rw [matchesAt, matchesAt, startsWithLetters_append_gap word isGap, starts, Bool.false_and,
        Bool.false_and]
  | true =>
      have long := length_le_of_startsWithLetters starts
      have length : (text.take m.key.length).length = m.key.length := by
        rw [List.length_take, Nat.min_eq_left long]
      have sameAfter : isWordAt (text.drop m.key.length ++ gap :: behind).head? =
          isWordAt (text.drop m.key.length).head? := by
        cases text.drop m.key.length with
        | nil => exact (isGap_iff.mp isGap).1
        | cons c rest => rfl
      have same : m.matchesAt before (text.take m.key.length
            ++ (text.drop m.key.length ++ gap :: behind)) =
          m.matchesAt before (text.take m.key.length ++ text.drop m.key.length) :=
        matchesAt_congr nonempty length rfl sameAfter
      rw [← List.append_assoc, List.take_append_drop] at same
      exact same

theorem Substitutes.congr_before {text out : List Char} (same : isWordAt before' = isWordAt before)
    (run : m.Substitutes replace before text out) :
    m.Substitutes replace before' text out := by
  cases run with
  | done before => exact .done before'
  | keep noMatch tail => exact .keep (by rw [matchesAt_congr_before same, noMatch]) tail
  | hit length isMatch tail =>
      exact .hit length (by rw [matchesAt_congr_before same, isMatch]) tail

/-- The two sides of a gap are substituted each for itself. -/
theorem Substitutes.append_gap {text out behind outBehind : List Char} (nonempty : m.key ≠ [])
    (word : ∀ c ∈ m.key, isWord c = true) (isGap : isGap gap = true)
    (run : m.Substitutes replace before text out)
    (runBehind : m.Substitutes replace none behind outBehind) :
    m.Substitutes replace before (text ++ gap :: behind) (out ++ gap :: outBehind) := by
  have sameEdge : isWordAt (some gap) = isWordAt none := (isGap_iff.mp isGap).1
  induction run with
  | done before =>
      refine .keep ?_ (runBehind.congr_before sameEdge)
      have noMatch := matchesAt_append_gap nonempty word isGap before [] behind
      rw [matchesAt_nil nonempty] at noMatch
      exact noMatch
  | @keep before c rest out noMatch _ ih =>
      refine .keep ?_ ih
      have same := matchesAt_append_gap nonempty word isGap before (c :: rest) behind
      exact same.trans noMatch
  | @hit before matched rest out length isMatch _ ih =>
      rw [List.append_assoc, List.append_assoc]
      refine .hit length ?_ ih
      have same := matchesAt_append_gap nonempty word isGap before (matched ++ rest) behind
      rw [List.append_assoc] at same
      exact same.trans isMatch

end Matcher

namespace Entry.IsWord

variable {entry : Entry} {escape : List Char → List Char}

theorem substitutes_apply (word : entry.IsWord) (escape : List Char → List Char)
    (text : List Char) :
    entry.matcher.Substitutes (entry.insertion escape) none text (entry.apply escape text) :=
  (Matcher.substitutes_iff (m := entry.matcher) word.key_ne_nil).mpr rfl

theorem apply_append_gap (word : entry.IsWord) {gap : Char} (isGap : isGap gap = true)
    (text behind : List Char) :
    entry.apply escape (text ++ gap :: behind) =
      entry.apply escape text ++ gap :: entry.apply escape behind := by
  have run := (word.substitutes_apply escape text).append_gap word.key_ne_nil word.word isGap
    (word.substitutes_apply escape behind)
  exact (Matcher.substitutes_iff word.key_ne_nil).mp run

end Entry.IsWord

/-- The two sides of a gap are translated each for itself. -/
theorem translateEscaped_append_gap {entries : List Entry} {escape : List Char → List Char}
    {gap : Char} (words : ∀ entry ∈ entries, entry.IsWord) (isGap : isGap gap = true)
    (text behind : List Char) :
    translateEscaped entries escape (text ++ gap :: behind) =
      translateEscaped entries escape text ++ gap :: translateEscaped entries escape behind := by
  induction entries generalizing text behind with
  | nil => rfl
  | cons entry entries ih =>
      rcases List.forall_mem_cons.mp words with ⟨first, later⟩
      rw [translateEscaped_cons, first.apply_append_gap isGap, ih later, translateEscaped_cons,
        translateEscaped_cons]

/-! ## Word by word -/

/-- A text is a word, which may be empty, and what stands behind it. -/
theorem exists_word_append (text : List Char) :
    ∃ word behind, text = word ++ behind ∧ (∀ c ∈ word, isWord c = true)
      ∧ isWordAt behind.head? = false := by
  refine ⟨text.takeWhile isWord, text.dropWhile isWord, List.takeWhile_append_dropWhile.symm,
    fun c member => List.all_eq_true.mp List.all_takeWhile c member, ?_⟩
  have stops := List.head?_dropWhile_not isWord text
  cases isBehind : text.dropWhile isWord with
  | nil => rfl
  | cons c behind =>
      rw [isBehind] at stops
      exact stops

/-- A text without the iota subscript is a word, or a word and a gap before such a text. -/
theorem words_induction {motive : List Char → Prop} {text : List Char}
    (noIota : iotaSubscript ∉ text)
    (word : ∀ word, (∀ c ∈ word, isWord c = true) → motive word)
    (gap : ∀ word gap behind, (∀ c ∈ word, isWord c = true) → isGap gap = true →
      iotaSubscript ∉ behind → motive behind → motive (word ++ gap :: behind)) : motive text := by
  induction size : text.length using Nat.strongRecOn generalizing text with
  | ind size ih =>
      subst size
      rcases exists_word_append text with ⟨first, rest, rfl, letters, ends⟩
      cases rest with
      | nil =>
          rw [List.append_nil]
          exact word first letters
      | cons next behind =>
          rw [List.mem_append, List.mem_cons, not_or, not_or] at noIota
          have shorter : behind.length < (first ++ next :: behind).length := by
            rw [List.length_append, List.length_cons]
            exact Nat.lt_add_left _ (Nat.lt_succ_self _)
          have isGap : isGap next = true := isGap_iff.mpr ⟨ends, Ne.symm noIota.2.1⟩
          exact gap first next behind letters isGap noIota.2.2
            (ih behind.length shorter noIota.2.2 rfl)

/-- A word matches where its letters stand between two word edges. -/
theorem Matcher.matchesAt_iff_of_wordEdges {m : Matcher} {before : Option Char}
    {matched rest : List Char} (edges : m.surroundings = .wordEdges) (nonempty : m.key ≠ [])
    (length : matched.length = m.key.length) :
    m.matchesAt before (matched ++ rest) = true ↔
      startsWithLetters m.key matched = true ∧ wordEdge before matched.head? = true
        ∧ wordEdge matched.getLast? rest.head? = true := by
  cases matched with
  | nil => exact absurd (List.length_eq_zero_iff.mp length.symm) nonempty
  | cons c matched =>
      have last : (c :: matched).getLast? = some (matched.getLast?.getD c) := List.getLast?_cons
      rw [matchesAt, startsWithLetters_append rest length, edges, Bool.and_eq_true]
      simp [surroundedAt, ← length, beforeEnd, last]

theorem isWordAt_head? {word : List Char} (nonempty : word ≠ [])
    (letters : ∀ c ∈ word, isWord c = true) : isWordAt word.head? = true := by
  rw [List.head?_eq_some_head nonempty]
  exact letters _ (List.head_mem nonempty)

theorem isWordAt_getLast? {word : List Char} (nonempty : word ≠ [])
    (letters : ∀ c ∈ word, isWord c = true) : isWordAt word.getLast? = true := by
  rw [List.getLast?_eq_some_getLast nonempty]
  exact letters _ (List.getLast_mem nonempty)

theorem wordEdge_of_isWordAt {left right : Option Char} (word : isWordAt left = true) :
    wordEdge left right = true ↔ isWordAt right = false := by
  rw [wordEdge, word]
  simp

section SingleWord

variable {entry : Entry} {word : List Char}

/-- From the middle of a word on, nothing is replaced up to its end. -/
theorem Matcher.Substitutes.exists_of_inside {m : Matcher} {replace : List Char → List Char}
    {before : Option Char} {behind out : List Char} (edges : m.surroundings = .wordEdges)
    (nonempty : m.key ≠ []) (letters : ∀ c ∈ word, isWord c = true)
    (inside : isWordAt before = true) (run : m.Substitutes replace before (word ++ behind) out) :
    ∃ outBehind, out = word ++ outBehind
      ∧ m.Substitutes replace (word.getLast?.or before) behind outBehind := by
  induction word generalizing before out with
  | nil => exact ⟨out, rfl, run⟩
  | cons c word ih =>
      rcases List.forall_mem_cons.mp letters with ⟨first, later⟩
      have isLetter : isWordAt (some c) = true := first
      have noMatch : m.matchesAt before (c :: (word ++ behind)) = false := by
        simp [matchesAt, surroundedAt, edges, wordEdge, inside, isLetter]
      rcases run.exists_of_noMatch nonempty noMatch with ⟨outRest, rfl, tail⟩
      rcases ih later isLetter tail with ⟨outBehind, rfl, runBehind⟩
      refine ⟨outBehind, rfl, ?_⟩
      rw [List.getLast?_cons]
      cases isLast : word.getLast? <;> simpa [isLast] using runBehind

theorem Matcher.Substitutes.eq_of_inside {m : Matcher} {replace : List Char → List Char}
    {before : Option Char} {out : List Char} (edges : m.surroundings = .wordEdges)
    (nonempty : m.key ≠ []) (letters : ∀ c ∈ word, isWord c = true)
    (inside : isWordAt before = true) (run : m.Substitutes replace before word out) :
    out = word := by
  rw [← List.append_nil word] at run
  rcases run.exists_of_inside edges nonempty letters inside with ⟨outBehind, rfl, runBehind⟩
  rw [runBehind.eq_substituteFrom nonempty, substituteFrom_nil nonempty, List.append_nil]

/-- A word is left as it is, or it has the letters of the key and is replaced as a whole. -/
theorem Entry.IsWord.apply_word (isWordKey : entry.IsWord) (escape : List Char → List Char)
    (letters : ∀ c ∈ word, isWord c = true) :
    entry.apply escape word = word
      ∨ SameLetters entry.key word
        ∧ entry.apply escape word = entry.insertion escape word := by
  have edges := isWordKey.surroundings
  have nonempty := isWordKey.key_ne_nil
  have run := isWordKey.substitutes_apply escape word
  generalize entry.apply escape word = out at run
  cases run with
  | done => exact .inl rfl
  | @keep _ c rest out _ tail =>
      rcases List.forall_mem_cons.mp letters with ⟨first, later⟩
      have inside : isWordAt (some c) = true := first
      rw [tail.eq_of_inside edges nonempty later inside]
      exact .inl rfl
  | @hit _ matched rest out length isMatch tail =>
      have lastIsWord : isWordAt matched.getLast? = true :=
        isWordAt_getLast? (ne_nil_of_matched nonempty length)
          fun c member => letters c (List.mem_append_left rest member)
      rcases (Matcher.matchesAt_iff_of_wordEdges edges nonempty length).mp isMatch
        with ⟨isKey, _, endEdge⟩
      rw [wordEdge_of_isWordAt lastIsWord] at endEdge
      cases rest with
      | nil =>
          rw [tail.eq_of_inside edges nonempty (by simp) lastIsWord, List.append_nil,
            List.append_nil]
          exact .inr ⟨sameLetters_iff.mpr ⟨length, isKey⟩, rfl⟩
      | cons d rest =>
          have next : isWordAt (some d) = true := letters d (by simp)
          rw [List.head?_cons, next] at endEdge
          contradiction

end SingleWord

/-! ## Texts that an entry leaves alone -/

namespace Entry

variable {entry : Entry} {word text : List Char}

/-- Whether an entry leaves a word alone. Only a word of the key's length is looked at. -/
def spares (entry : Entry) (word : List Char) : Bool :=
  word.length != entry.key.length || entry.apply id word == word

/-- Whether an entry leaves each word of a text alone. -/
def sparesWords (entry : Entry) (text : List Char) : Bool :=
  (text.splitOnP fun c => !isWord c).all entry.spares

theorem IsWord.apply_of_spares (isWordKey : entry.IsWord) (letters : ∀ c ∈ word, isWord c = true)
    (spares : entry.spares word = true) : entry.apply id word = word := by
  rw [Entry.spares, Bool.or_eq_true, bne_iff_ne, beq_iff_eq] at spares
  rcases isWordKey.apply_word id letters with same | ⟨isKey, _⟩
  · exact same
  · rcases spares with differs | same
    · exact absurd (sameLetters_iff.mp isKey).1 differs
    · exact same

/-- If an entry leaves each word of a text alone, it leaves the text alone. -/
theorem IsWord.apply_of_sparesWords (isWordKey : entry.IsWord) (noIota : iotaSubscript ∉ text)
    (spares : entry.sparesWords text = true) : entry.apply id text = text := by
  refine words_induction (motive := fun text => entry.sparesWords text = true →
    entry.apply id text = text) noIota ?_ ?_ spares
  · intro word letters spares
    have single : word.splitOnP (fun c => !isWord c) = [word] :=
      List.splitOnP_eq_singleton fun c member => by rw [letters c member, Bool.not_true]
    rw [sparesWords, single, List.all_cons, Bool.and_eq_true] at spares
    exact isWordKey.apply_of_spares letters spares.1
  · intro word gap behind letters isGap _ ih spares
    have split : (word ++ gap :: behind).splitOnP (fun c => !isWord c) =
        word :: behind.splitOnP fun c => !isWord c :=
      List.splitOnP_append_cons_of_forall_mem
        (fun c member => by rw [letters c member, Bool.not_true]) gap
        (by rw [(isGap_iff.mp isGap).1, Bool.not_false]) behind
    rw [sparesWords, split, List.all_cons, Bool.and_eq_true] at spares
    rw [isWordKey.apply_append_gap isGap, isWordKey.apply_of_spares letters spares.1, ih spares.2]

end Entry

end CodeGloss.Glossary
