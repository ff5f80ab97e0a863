import CodeGloss.Proofs.Glossary.WordKey

/-!
# Where a match may start

Behind a character that is no word character, a key of word characters can match
only if a word starts there. The match is then that word, or it goes on with an
iota subscript behind it. Whether there may be a match is so read off the first
word and the character behind it, and a substitution that does not start with a
match leaves both as they are, except that it may put something else in the place
of an iota subscript.
-/

namespace CodeGloss.Glossary

open Text

/-! ## Letters of a word -/

section Letters

variable {key text rest : List Char}

theorem startsWithLetters_of_append (starts : startsWithLetters (text ++ rest) key = true) :
    startsWithLetters text key = true := by
  induction text generalizing key with
  | nil => cases key <;> rfl
  | cons c text ih =>
      cases key with
      | nil => contradiction
      | cons k key =>
          rw [List.cons_append, startsWithLetters, Bool.and_eq_true] at starts
          rw [startsWithLetters, starts.1, ih starts.2, Bool.and_self]

/-- Where a key stands, it starts with the letters of the text up to its length. -/
theorem startsWithLetters_of_matched (starts : startsWithLetters key (text ++ rest) = true)
    (short : text.length ≤ key.length) : startsWithLetters text key = true := by
  induction text generalizing key with
  | nil => cases key <;> rfl
  | cons c text ih =>
      cases key with
      | nil => contradiction
      | cons k key =>
          rw [List.cons_append, startsWithLetters, Bool.and_eq_true] at starts
          rw [startsWithLetters, sameLetter_comm, starts.1, ih starts.2 (Nat.le_of_succ_le_succ short),
            Bool.and_self]

/-- What a word matches are word characters and iota subscripts. -/
theorem isWord_of_mem_matched {matched : List Char} (word : ∀ k ∈ key, isWord k = true)
    (starts : startsWithLetters key matched = true) (length : matched.length = key.length) :
    ∀ c ∈ matched, isWord c = true ∨ c = iotaSubscript := by
  induction key generalizing matched with
  | nil =>
      rw [List.length_nil, List.length_eq_zero_iff] at length
      simp [length]
  | cons k key ih =>
      rcases List.forall_mem_cons.mp word with ⟨first, later⟩
      cases matched with
      | nil => simp
      | cons c matched =>
          rw [startsWithLetters, Bool.and_eq_true] at starts
          exact List.forall_mem_cons.mpr
            ⟨isWord_of_sameLetter first starts.1, ih later starts.2 (Nat.succ.inj length)⟩

end Letters

namespace Matcher

variable {m : Matcher} {replace : List Char → List Char} {before : Option Char} {text out : List Char}

/-- A word does not match before a gap, nor at the end of a text. -/
theorem matchesAt_of_gap (nonempty : m.key ≠ []) (word : ∀ k ∈ m.key, isWord k = true)
    (ends : isWordAt text.head? = false) (noIota : text.head? ≠ some iotaSubscript) :
    m.matchesAt before text = false := by
  cases text with
  | nil => exact matchesAt_nil nonempty before
  | cons gap rest =>
      have isGap : isGap gap = true := isGap_iff.mpr ⟨ends, fun isIota => noIota (by rw [isIota]; rfl)⟩
      rw [← List.nil_append (gap :: rest), matchesAt_append_gap nonempty word isGap,
        matchesAt_nil nonempty]

theorem Substitutes.head?_eq (nonempty : m.key ≠ []) (noMatch : m.matchesAt before text = false)
    (run : m.Substitutes replace before text out) : out.head? = text.head? := by
  cases text with
  | nil => rw [run.eq_substituteFrom nonempty, substituteFrom_nil nonempty]
  | cons c rest =>
      rcases run.exists_of_noMatch nonempty noMatch with ⟨outRest, rfl, _⟩
      rfl

end Matcher

/-! ## Starts -/

/-- Whether the word that starts the text is what the key matches, or the key goes on with an
iota subscript behind it. -/
def Entry.mayStartAt (entry : Entry) (text : List Char) : Bool :=
  let word := text.takeWhile isWord
  !word.isEmpty && startsWithLetters word entry.key
    && (word.length == entry.key.length || (text.drop word.length).head? == some iotaSubscript)

namespace Entry

variable {entry other : Entry} {before : Option Char} {word behind text : List Char}

theorem mayStartAt_append_iff (letters : ∀ c ∈ word, isWord c = true)
    (ends : isWordAt behind.head? = false) :
    entry.mayStartAt (word ++ behind) = true ↔ word ≠ [] ∧ startsWithLetters word entry.key = true
      ∧ (word.length = entry.key.length ∨ behind.head? = some iotaSubscript) := by
  have noMore : behind.takeWhile isWord = [] := by
    cases behind with
    | nil => rfl
    | cons c behind => exact List.takeWhile_cons_of_neg (Bool.eq_false_iff.mp ends)
  have isFirst : (word ++ behind).takeWhile isWord = word := by
    rw [List.takeWhile_append_of_pos letters, noMore, List.append_nil]
  simp [mayStartAt, isFirst, and_assoc]

theorem mayStartAt_of_not_isWordAt (ends : isWordAt text.head? = false) :
    entry.mayStartAt text = false := by
  rw [Bool.eq_false_iff]
  intro starts
  have noLetters : ∀ c ∈ ([] : List Char), isWord c = true := nofun
  exact ((mayStartAt_append_iff noLetters ends).mp starts).1 rfl

theorem startsWithLetters_of_mayStartAt (letters : ∀ c ∈ word, isWord c = true)
    (starts : entry.mayStartAt (word ++ behind) = true) :
    startsWithLetters word entry.key = true := by
  rcases exists_word_append behind with ⟨more, rest, rfl, moreLetters, ends⟩
  rw [← List.append_assoc, mayStartAt_append_iff (List.forall_mem_append.mpr ⟨letters, moreLetters⟩)
    ends] at starts
  exact startsWithLetters_of_append starts.2.1

/-- A match that starts with a word ends with it, or goes on with an iota subscript. -/
theorem IsWord.length_word_of_matched (isWordKey : entry.IsWord) {matched rest : List Char}
    (isKey : startsWithLetters entry.key matched = true) (length : matched.length = entry.key.length)
    (endEdge : wordEdge matched.getLast? rest.head? = true) (letters : ∀ c ∈ word, isWord c = true)
    (ends : isWordAt behind.head? = false) (parts : matched ++ rest = word ++ behind) :
    word.length = entry.key.length
      ∨ word.length < entry.key.length ∧ behind.head? = some iotaSubscript := by
  rcases List.append_eq_append_iff.mp parts with ⟨more, isWord, rfl⟩ | ⟨more, isMatched, rfl⟩
  · -- The match does not end within the word.
    have last : isWordAt matched.getLast? = true :=
      isWordAt_getLast? (ne_nil_of_matched isWordKey.key_ne_nil length)
        fun c member => letters c (isWord ▸ List.mem_append_left more member)
    rw [wordEdge_of_isWordAt last] at endEdge
    cases more with
    | nil =>
        rw [List.append_nil] at isWord
        exact .inl (isWord ▸ length)
    | cons c more =>
        have next : isWordAt (some c) = true := letters c (by simp [isWord])
        exact absurd (next.symm.trans endEdge) Bool.true_eq_false.mp
  · rw [isMatched, List.length_append] at length
    cases more with
    | nil => exact .inl length
    | cons c more =>
        right
        constructor
        · rw [← length]
          exact Nat.lt_add_of_pos_right (Nat.succ_pos more.length)
        · rw [← List.length_append, ← isMatched] at length
          rcases isWord_of_mem_matched isWordKey.word isKey length c (by simp [isMatched])
            with isLetter | rfl
          · exact absurd (isLetter.symm.trans ends) Bool.true_eq_false.mp
          · rfl

/-- Behind a character that is no word character, a match is where it may start. -/
theorem IsWord.mayStartAt_of_matchesAt (isWordKey : entry.IsWord)
    (outside : isWordAt before = false) (isMatch : entry.matcher.matchesAt before text = true) :
    entry.mayStartAt text = true := by
  have starts : startsWithLetters entry.key text = true :=
    Matcher.startsWithLetters_of_matchesAt isMatch
  rcases Matcher.exists_matched isMatch with ⟨matched, rest, rfl, length⟩
  rcases (Matcher.matchesAt_iff_of_wordEdges isWordKey.surroundings isWordKey.key_ne_nil length).mp
    isMatch with ⟨isKey, startEdge, endEdge⟩
  rcases exists_word_append (matched ++ rest) with ⟨word, behind, parts, letters, ends⟩
  have reaches := isWordKey.length_word_of_matched isKey length endEdge letters ends parts
  have nonempty : word ≠ [] := by
    rintro rfl
    rw [List.nil_append] at parts
    cases matched with
    | nil => exact isWordKey.key_ne_nil (List.length_eq_zero_iff.mp length.symm)
    | cons c matched =>
        have noWord : isWordAt (some c) = false := by
          rw [← parts] at ends
          exact ends
        simp [wordEdge, outside, noWord] at startEdge
  have short : word.length ≤ entry.key.length := by
    rcases reaches with same | ⟨shorter, _⟩
    · exact Nat.le_of_eq same
    · exact Nat.le_of_lt shorter
  rw [parts] at starts ⊢
  rw [mayStartAt_append_iff letters ends]
  exact ⟨nonempty, startsWithLetters_of_matched starts short, reaches.imp_right And.right⟩

/-- Where no match may start, a substitution does not let another entry start. -/
theorem IsWord.mayStartAt_of_substitutes {replace : List Char → List Char} {out : List Char}
    (isWordKey : entry.IsWord) (outside : isWordAt before = false)
    (spared : entry.mayStartAt text = false)
    (run : entry.matcher.Substitutes replace before text out)
    (starts : other.mayStartAt out = true) : other.mayStartAt text = true := by
  have keyNonempty : entry.matcher.key ≠ [] := isWordKey.key_ne_nil
  have noMatch : entry.matcher.matchesAt before text = false := by
    rw [Bool.eq_false_iff]
    intro isMatch
    rw [isWordKey.mayStartAt_of_matchesAt outside isMatch] at spared
    contradiction
  rcases exists_word_append text with ⟨word, behind, rfl, letters, ends⟩
  cases word with
  | nil =>
      rw [mayStartAt_of_not_isWordAt (run.head?_eq keyNonempty noMatch ▸ ends)] at starts
      contradiction
  | cons c word =>
      rcases List.forall_mem_cons.mp letters with ⟨first, later⟩
      have inside : isWordAt (some c) = true := first
      rcases run.exists_of_noMatch keyNonempty noMatch with ⟨outRest, rfl, tail⟩
      rcases tail.exists_of_inside isWordKey.surroundings keyNonempty later inside
        with ⟨outBehind, rfl, runBehind⟩
      rw [← List.cons_append] at starts
      have isPrefix := startsWithLetters_of_mayStartAt letters starts
      rw [mayStartAt_append_iff letters ends]
      refine ⟨List.cons_ne_nil c word, isPrefix, ?_⟩
      by_cases isIota : behind.head? = some iotaSubscript
      · exact .inr isIota
      · have sameHead := runBehind.head?_eq keyNonempty
          (Matcher.matchesAt_of_gap keyNonempty isWordKey.word ends isIota)
        rw [← sameHead] at ends ⊢
        exact ((mayStartAt_append_iff letters ends).mp starts).2.2

end Entry

end CodeGloss.Glossary
