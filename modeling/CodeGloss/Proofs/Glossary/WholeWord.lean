import CodeGloss.Proofs.Glossary.WordStart
import CodeGloss.Text.Blank

/-!
# One meaning of a match

What a key asks of its surroundings depends on the key, but it comes to the same: the key
stands where its letters stand with no word character on either side. A key of word
characters covers word characters alone, unless an iota subscript is among them, so a word
edge at either end is a missing neighbour. Its matches are then what a search from the left
finds that takes the first place where the key stands and goes on behind it.
-/

namespace CodeGloss.Glossary

open Text

/-! ## Both kinds of surroundings -/

/-- A stripped key does not end with a line break. -/
theorem getLast?_ne_of_strip_eq {key : List Char} (stripped : strip key = key) :
    key.getLast? ≠ some '\n' := by
  intro last
  rw [← stripped] at last
  exact absurd (getLast?_strip_not_blank last) (by decide)

theorem isWord_of_isWordKey {key : List Char} (noBreak : key.getLast? ≠ some '\n')
    (wordKey : isWordKey key = true) : ∀ c ∈ key, isWord c = true := by
  rw [isWordKey, if_neg noBreak, Bool.and_eq_true, List.all_eq_true] at wordKey
  exact wordKey.2

theorem wordEdge_comm (left right : Option Char) : wordEdge left right = wordEdge right left := by
  rw [wordEdge, wordEdge, bne_comm]

namespace Matcher

variable {key matched rest : List Char} {before : Option Char}

/-- Between word edges, a match of word characters has none beside it. -/
theorem wordEdges_iff (nonempty : matched ≠ []) (letters : ∀ c ∈ matched, isWord c = true) :
    wordEdge before matched.head? = true ∧ wordEdge matched.getLast? rest.head? = true ↔
      isWordAt before = false ∧ isWordAt rest.head? = false := by
  rw [wordEdge_comm, wordEdge_of_isWordAt (isWordAt_head? nonempty letters),
    wordEdge_of_isWordAt (isWordAt_getLast? nonempty letters)]

/-- A key matches where its letters stand with no word character on either side. -/
theorem matchesAt_ofKey_iff (nonempty : key ≠ []) (noBreak : key.getLast? ≠ some '\n')
    (length : matched.length = key.length)
    (noIota : isWordKey key = true → iotaSubscript ∉ matched) :
    (ofKey key).matchesAt before (matched ++ rest) = true ↔
      SameLetters key matched ∧ isWordAt before = false ∧ isWordAt rest.head? = false := by
  rw [sameLetters_iff, and_iff_right length]
  cases wordKey : isWordKey key with
  | true =>
      have edges : (ofKey key).surroundings = .wordEdges := by rw [ofKey, wordKey, if_pos rfl]
      rw [matchesAt_iff_of_wordEdges edges nonempty length]
      refine and_congr_right fun starts => ?_
      have letters : ∀ c ∈ matched, isWord c = true := by
        intro c member
        rcases isWord_of_mem_matched (isWord_of_isWordKey noBreak wordKey) starts length c member
          with isLetter | rfl
        · exact isLetter
        · exact absurd member (noIota wordKey)
      exact wordEdges_iff (ne_nil_of_matched nonempty length) letters
  | false =>
      have beside : (ofKey key).surroundings = .noWordBeside := by
        rw [ofKey, wordKey, if_neg Bool.false_ne_true]
      have isKey : (ofKey key).key = key := rfl
      rw [matchesAt, beside, isKey, startsWithLetters_append rest length, Bool.and_eq_true,
        surroundedAt, ← length, List.drop_left, Bool.and_eq_true, Bool.not_eq_true',
        Bool.not_eq_true']

end Matcher

/-! ## Places -/

/-- At a place of the text the key's letters stand, with no word character on either side. -/
def StandsAt (key text : List Char) (place : Nat) : Prop :=
  ∃ before matched after, text = before ++ (matched ++ after) ∧ before.length = place
    ∧ SameLetters key matched ∧ isWordAt before.getLast? = false ∧ isWordAt after.head? = false

section Places

variable {key text passed rest : List Char}

theorem StandsAt.le_length {place : Nat} (stands : StandsAt key text place) :
    place + key.length ≤ text.length := by
  rcases stands with ⟨before, matched, after, rfl, rfl, letters, _, _⟩
  rw [List.length_append, List.length_append, (sameLetters_iff.mp letters).1]
  omega

/-- Where a search has got to, the key matches if and only if it stands there. -/
theorem matchesAt_iff_standsAt (nonempty : key ≠ []) (stripped : strip key = key)
    (noIota : iotaSubscript ∉ passed ++ rest) :
    (Matcher.ofKey key).matchesAt passed.getLast? rest = true ↔
      StandsAt key (passed ++ rest) passed.length := by
  have noBreak := getLast?_ne_of_strip_eq stripped
  have noIotaIn : ∀ {matched after}, rest = matched ++ after → iotaSubscript ∉ matched := by
    rintro matched after rfl member
    exact noIota (List.mem_append_right passed (List.mem_append_left after member))
  constructor
  · intro isMatch
    rcases Matcher.exists_matched isMatch with ⟨matched, after, parts, length⟩
    rw [parts] at isMatch ⊢
    rw [Matcher.matchesAt_ofKey_iff nonempty noBreak length fun _ => noIotaIn parts] at isMatch
    rcases isMatch with ⟨letters, freeBefore, freeAfter⟩
    exact ⟨passed, matched, after, rfl, rfl, letters, freeBefore, freeAfter⟩
  · rintro ⟨before, matched, after, parts, place, letters, freeBefore, freeAfter⟩
    rcases List.append_inj parts place.symm with ⟨rfl, isRest⟩
    rw [isRest, Matcher.matchesAt_ofKey_iff nonempty noBreak (sameLetters_iff.mp letters).1
      fun _ => noIotaIn isRest]
    exact ⟨letters, freeBefore, freeAfter⟩

end Places

/-! ## The search from the left -/

/-- From a place on, a search that takes the first place where the key stands, and goes on
behind it, finds these ranges. -/
inductive FoundFrom (key text : List Char) : Nat → List (Nat × Nat) → Prop
  | nowhere {place : Nat} (noLater : ∀ later, place ≤ later → ¬ StandsAt key text later) :
      FoundFrom key text place []
  | next {place start : Nat} {ranges : List (Nat × Nat)} (reached : place ≤ start)
      (noEarlier : ∀ earlier, place ≤ earlier → earlier < start → ¬ StandsAt key text earlier)
      (stands : StandsAt key text start)
      (tail : FoundFrom key text (start + key.length) ranges) :
      FoundFrom key text place ((start, start + key.length) :: ranges)

namespace FoundFrom

variable {key text : List Char} {place : Nat} {ranges others : List (Nat × Nat)}

/-- A search finds one list of ranges alone. -/
theorem unique (found : FoundFrom key text place ranges) (other : FoundFrom key text place others) :
    ranges = others := by
  induction found generalizing others with
  | nowhere noLater =>
      cases other with
      | nowhere => rfl
      | next reached _ stands _ => exact absurd stands (noLater _ reached)
  | @next place start ranges reached noEarlier stands _ ih =>
      cases other with
      | nowhere noLater => exact absurd stands (noLater start reached)
      | @next _ otherStart others otherReached noEarlierOther otherStands tail =>
          rcases Nat.lt_trichotomy start otherStart with before | rfl | behind
          · exact absurd stands (noEarlierOther start reached before)
          · rw [ih tail]
          · exact absurd otherStands (noEarlier otherStart otherReached behind)

/-- A search may start one place earlier, where the key does not stand. -/
theorem of_succ (notHere : ¬ StandsAt key text place)
    (found : FoundFrom key text (place + 1) ranges) : FoundFrom key text place ranges := by
  have notFrom : ∀ {other}, place ≤ other → (place + 1 ≤ other → ¬ StandsAt key text other) →
      ¬ StandsAt key text other := by
    intro other reached notLater
    rcases Nat.eq_or_lt_of_le reached with rfl | later
    · exact notHere
    · exact notLater later
  cases found with
  | nowhere noLater => exact .nowhere fun other reached => notFrom reached (noLater other)
  | next reached noEarlier stands tail =>
      refine .next (Nat.le_of_succ_le reached) ?_ stands tail
      intro earlier above below
      exact notFrom above fun later => noEarlier earlier later below

end FoundFrom

namespace Matcher

variable {m : Matcher} {before : Option Char}

/-- Characters that a match still covers are passed over. -/
theorem occurrencesFrom_covered (place : Nat) (before : Option Char) (covered rest : List Char) :
    m.occurrencesFrom place before covered.length (covered ++ rest) =
      m.occurrencesFrom (place + covered.length) (covered.getLast?.or before) 0 rest := by
  induction covered generalizing place before with
  | nil => rfl
  | cons c covered ih =>
      have further : place + 1 + covered.length = place + (c :: covered).length := by
        rw [List.length_cons, Nat.add_assoc, Nat.add_comm 1]
      rw [List.length_cons, List.cons_append, occurrencesFrom, ih, List.getLast?_cons, further,
        List.length_cons]
      cases covered.getLast? <;> rfl

theorem occurrencesFrom_hit {matched rest : List Char} (nonempty : m.key ≠ [])
    (length : matched.length = m.key.length)
    (isMatch : m.matchesAt before (matched ++ rest) = true) (place : Nat) :
    m.occurrencesFrom place before 0 (matched ++ rest) =
      (place, place + m.key.length)
        :: m.occurrencesFrom (place + m.key.length) matched.getLast? 0 rest := by
  cases matched with
  | nil => exact absurd (List.length_eq_zero_iff.mp length.symm) nonempty
  | cons c matched =>
      have covered : m.key.length - 1 = matched.length := by
        rw [← length, List.length_cons, Nat.add_sub_cancel]
      have further : place + 1 + matched.length = place + m.key.length := by
        rw [← length, List.length_cons, Nat.add_assoc, Nat.add_comm 1]
      rw [List.cons_append] at isMatch ⊢
      rw [occurrencesFrom, if_pos isMatch, covered, occurrencesFrom_covered, further,
        List.getLast?_cons]
      cases matched.getLast? <;> rfl

theorem occurrencesFrom_keep {c : Char} {rest : List Char}
    (noMatch : m.matchesAt before (c :: rest) = false) (place : Nat) :
    m.occurrencesFrom place before 0 (c :: rest) =
      m.occurrencesFrom (place + 1) (some c) 0 rest := by
  rw [occurrencesFrom, if_neg (Bool.eq_false_iff.mp noMatch)]

theorem occurrencesFrom_nil (nonempty : m.key ≠ []) (place : Nat) (before : Option Char) :
    m.occurrencesFrom place before 0 [] = [] := by
  rw [occurrencesFrom, if_neg (Bool.eq_false_iff.mp (matchesAt_nil nonempty before))]

end Matcher

/-- The matches that are counted off the text are those that the search finds. -/
theorem foundFrom_occurrencesFrom {key rest : List Char} (nonempty : key ≠ [])
    (stripped : strip key = key) (passed : List Char) (noIota : iotaSubscript ∉ passed ++ rest) :
    FoundFrom key (passed ++ rest) passed.length
      ((Matcher.ofKey key).occurrencesFrom passed.length passed.getLast? 0 rest) := by
  induction size : rest.length using Nat.strongRecOn generalizing passed rest with
  | ind size ih =>
      subst size
      have standsIff := matchesAt_iff_standsAt nonempty stripped noIota
      cases isMatch : (Matcher.ofKey key).matchesAt passed.getLast? rest with
      | true =>
          rcases Matcher.exists_matched isMatch with ⟨matched, behind, rfl, length⟩
          rw [Matcher.occurrencesFrom_hit nonempty length isMatch]
          have shorter := length_lt_of_matched nonempty length behind
          rw [← List.append_assoc] at noIota
          have tail := ih behind.length shorter (passed ++ matched) noIota rfl
          rw [List.length_append, length, List.append_assoc,
            List.getLast?_append_of_ne_nil passed (ne_nil_of_matched nonempty length)] at tail
          refine .next (Nat.le_refl _) ?_ (standsIff.mp isMatch) tail
          intro earlier above below
          exact absurd below (Nat.not_lt.mpr above)
      | false =>
          have notHere : ¬ StandsAt key (passed ++ rest) passed.length := by
            rw [← standsIff, isMatch]
            exact Bool.false_ne_true
          cases rest with
          | nil =>
              rw [Matcher.occurrencesFrom_nil nonempty]
              refine .nowhere fun later above stands => ?_
              have positive : 0 < key.length := List.length_pos_iff.mpr nonempty
              have bound := stands.le_length
              rw [List.append_nil] at bound
              omega
          | cons c rest =>
              rw [Matcher.occurrencesFrom_keep isMatch]
              rw [List.append_cons] at noIota
              have tail := ih rest.length (Nat.lt_succ_self _) (passed ++ [c]) noIota rfl
              rw [List.length_append, List.getLast?_concat, ← List.append_cons] at tail
              exact .of_succ notHere tail

/-- The matches of a stripped key are what a search from the left finds, for places where the
letters of the key stand with no word character on either side. -/
theorem foundFrom_iff_occurrences {key text : List Char} (nonempty : key ≠ [])
    (stripped : strip key = key) (noIota : iotaSubscript ∉ text) (ranges : List (Nat × Nat)) :
    FoundFrom key text 0 ranges ↔ (Matcher.ofKey key).occurrences text = ranges := by
  have found : FoundFrom key text 0 ((Matcher.ofKey key).occurrences text) :=
    foundFrom_occurrencesFrom nonempty stripped [] noIota
  constructor
  · intro other
    exact found.unique other
  · rintro rfl
    exact found

/-- A word and a key with punctuation, where one stands in the other. -/
theorem foundFrom_iff_occurrences_env :
    let text := ".env a.env .ENV".toList
    "env".toList ≠ [] ∧ strip "env".toList = "env".toList
      ∧ ".env".toList ≠ [] ∧ strip ".env".toList = ".env".toList ∧ iotaSubscript ∉ text
      ∧ FoundFrom "env".toList text 0 [(1, 4), (7, 10), (12, 15)]
      ∧ FoundFrom ".env".toList text 0 [(0, 4), (11, 15)] := by
  intro text
  have isWord : "env".toList ≠ [] ∧ strip "env".toList = "env".toList := by decide
  have isPath : ".env".toList ≠ [] ∧ strip ".env".toList = ".env".toList := by decide
  have noIota : iotaSubscript ∉ text := by decide
  refine ⟨isWord.1, isWord.2, isPath.1, isPath.2, noIota, ?_, ?_⟩
  · exact (foundFrom_iff_occurrences isWord.1 isWord.2 noIota _).mpr (by decide +kernel)
  · exact (foundFrom_iff_occurrences isPath.1 isPath.2 noIota _).mpr (by decide +kernel)

end CodeGloss.Glossary
