import CodeGloss.Proofs.Glossary.Dictionary
import Mathlib.Data.List.Nodup

/-!
# The first proposal wins

A collection and a fallback vocabulary propose translations for keys, one candidate after the
other. The dictionary has one entry for each key that is proposed, with the translation of the
first candidate that proposes one for it. Longer keys come first, and the entries of keys of
one length stand in the order of their first proposals.
-/

namespace CodeGloss.Glossary

open Format

/-! ## Proposals -/

/-- A candidate proposes a translation for a key: both its parts are text, its name has the key
as its normal form, and neither the key nor the translation is empty. -/
def Candidate.Proposes (candidate : Candidate) (key translation : List Char) : Prop :=
  (∃ name, candidate = (.text name, .text translation) ∧ normalizeKey name = key)
    ∧ key ≠ [] ∧ translation ≠ []

theorem Candidate.entry?_eq_some_iff {candidate : Candidate} {entry : Entry} :
    candidate.entry? = some entry ↔ candidate.Proposes entry.key entry.translation := by
  constructor
  · intro proposed
    have content := candidate.ne_nil_of_entry? proposed
    unfold Candidate.entry? at proposed
    split at proposed
    · rename_i name translation
      split at proposed
      · contradiction
      · cases proposed
        exact ⟨⟨name, rfl, rfl⟩, content⟩
    · contradiction
  · rintro ⟨⟨name, rfl, isKey⟩, keyContent, translated⟩
    rw [entry?_text, isKey, if_neg (by simp [keyContent, translated])]

theorem Candidate.Proposes.hasEntry {candidate : Candidate} {key translation : List Char}
    (proposes : candidate.Proposes key translation) :
    candidate.entry? = some ⟨key, translation⟩ :=
  entry?_eq_some_iff.mpr proposes

/-- A candidate without an entry proposes nothing. -/
theorem Candidate.not_proposes_of_entry? {candidate : Candidate} (none : candidate.entry? = none)
    (key translation : List Char) : ¬ candidate.Proposes key translation := by
  intro proposes
  have proposed := proposes.hasEntry
  rw [none] at proposed
  contradiction

/-- A candidate proposes something for one key at most. -/
theorem Candidate.Proposes.key_eq {candidate : Candidate} {entry : Entry}
    (proposed : candidate.entry? = some entry) {key translation : List Char}
    (proposes : candidate.Proposes key translation) : key = entry.key := by
  have same := proposes.hasEntry
  rw [proposed] at same
  exact (congrArg Entry.key (Option.some.inj same)).symm

/-- The candidate at this place proposes a translation for the key, and no candidate before it
proposes any. -/
structure FirstProposal (candidates : List Candidate) (key translation : List Char)
    (place : Nat) : Prop where
  proposes : ∃ candidate, candidates[place]? = some candidate
    ∧ candidate.Proposes key translation
  first : ∀ candidate ∈ candidates.take place, ∀ other, ¬ candidate.Proposes key other

section FirstProposal

variable {candidate : Candidate} {candidates : List Candidate} {key translation : List Char}

theorem firstProposal_zero_iff :
    FirstProposal (candidate :: candidates) key translation 0 ↔
      candidate.Proposes key translation := by
  constructor
  · rintro ⟨⟨_, isFirst, proposes⟩, _⟩
    cases isFirst
    exact proposes
  · intro proposes
    constructor
    · exact ⟨candidate, rfl, proposes⟩
    · intro earlier member
      contradiction

theorem firstProposal_succ_iff {place : Nat} :
    FirstProposal (candidate :: candidates) key translation (place + 1) ↔
      (∀ other, ¬ candidate.Proposes key other)
        ∧ FirstProposal candidates key translation place := by
  constructor
  · rintro ⟨proposes, first⟩
    rw [List.take_succ_cons, List.forall_mem_cons] at first
    exact ⟨first.1, proposes, first.2⟩
  · rintro ⟨silent, proposes, first⟩
    constructor
    · exact proposes
    · rw [List.take_succ_cons, List.forall_mem_cons]
      exact ⟨silent, first⟩

/-- A key that is proposed at all is first proposed somewhere. -/
theorem exists_firstProposal (member : candidate ∈ candidates)
    (proposes : candidate.Proposes key translation) :
    ∃ first place, FirstProposal candidates key first place := by
  induction candidates with
  | nil => contradiction
  | cons head rest ih =>
      by_cases silent : ∀ other, ¬ head.Proposes key other
      · rcases List.mem_cons.mp member with rfl | later
        · exact absurd proposes (silent translation)
        · rcases ih later with ⟨first, place, isFirst⟩
          exact ⟨first, place + 1, firstProposal_succ_iff.mpr ⟨silent, isFirst⟩⟩
      · rw [not_forall_not] at silent
        rcases silent with ⟨first, proposesFirst⟩
        exact ⟨first, 0, firstProposal_zero_iff.mpr proposesFirst⟩

/-- Behind a candidate for another key, or for none, proposals stand one place further on. -/
theorem exists_firstProposal_cons (silent : ∀ other, ¬ candidate.Proposes key other) :
    (∃ place, FirstProposal (candidate :: candidates) key translation place) ↔
      ∃ place, FirstProposal candidates key translation place := by
  constructor
  · rintro ⟨place, isFirst⟩
    cases place with
    | zero => exact absurd (firstProposal_zero_iff.mp isFirst) (silent translation)
    | succ place => exact ⟨place, (firstProposal_succ_iff.mp isFirst).2⟩
  · rintro ⟨place, isFirst⟩
    exact ⟨place + 1, firstProposal_succ_iff.mpr ⟨silent, isFirst⟩⟩

end FirstProposal

/-! ## Entries of first proposals -/

/-- The entries that are kept are those of first proposals, unless their key was taken before. -/
theorem mem_firstOfEach_iff {taken : List (List Char)} {candidates : List Candidate}
    {entry : Entry} :
    entry ∈ firstOfEach taken (candidates.filterMap Candidate.entry?) ↔
      entry.key ∉ taken ∧ ∃ place, FirstProposal candidates entry.key entry.translation place := by
  induction candidates generalizing taken with
  | nil =>
      constructor
      · intro member
        contradiction
      · rintro ⟨_, place, ⟨_, isAt, _⟩, _⟩
        contradiction
  | cons candidate rest ih =>
      cases proposed : candidate.entry? with
      | none =>
          rw [List.filterMap_cons_none proposed, ih, exists_firstProposal_cons]
          exact candidate.not_proposes_of_entry? proposed entry.key
      | some head =>
          have silent : entry.key ≠ head.key → ∀ other, ¬ candidate.Proposes entry.key other :=
            fun differs other proposes => differs (proposes.key_eq proposed)
          rw [List.filterMap_cons_some proposed, firstOfEach_cons]
          split
          · rename_i isTaken
            rw [ih]
            apply and_congr_right
            intro notTaken
            rw [exists_firstProposal_cons]
            exact silent fun same => notTaken (same ▸ isTaken)
          · rename_i notTaken
            rw [List.mem_cons, ih, List.mem_cons, not_or]
            constructor
            · rintro (rfl | ⟨⟨differs, free⟩, isFirst⟩)
              · exact ⟨notTaken, 0, firstProposal_zero_iff.mpr
                  (Candidate.entry?_eq_some_iff.mp proposed)⟩
              · exact ⟨free, (exists_firstProposal_cons (silent differs)).mpr isFirst⟩
            · rintro ⟨free, place, isFirst⟩
              by_cases same : entry.key = head.key
              · left
                cases place with
                | zero =>
                    have isEntry := (firstProposal_zero_iff.mp isFirst).hasEntry
                    rw [proposed] at isEntry
                    exact (Option.some.inj isEntry).symm
                | succ place =>
                    have proposes := Candidate.entry?_eq_some_iff.mp proposed
                    rw [← same] at proposes
                    exact absurd proposes ((firstProposal_succ_iff.mp isFirst).1 _)
              · right
                exact ⟨⟨same, free⟩, (exists_firstProposal_cons (silent same)).mp ⟨place, isFirst⟩⟩

/-- One entry is first proposed before another one is. -/
def ProposedBefore (candidates : List Candidate) (a b : Entry) : Prop :=
  ∃ first second, first < second ∧ FirstProposal candidates a.key a.translation first
    ∧ FirstProposal candidates b.key b.translation second

theorem ProposedBefore.key_ne {candidates : List Candidate} {a b : Entry}
    (before : ProposedBefore candidates a b) : a.key ≠ b.key := by
  rcases before with ⟨first, second, order, isFirst, isSecond⟩
  rcases isFirst.proposes with ⟨candidate, isAt, proposes⟩
  intro same
  rw [same] at proposes
  exact isSecond.first candidate
    (List.mem_of_getElem? (by rwa [List.getElem?_take_of_lt order])) _ proposes

theorem ProposedBefore.cons {candidate : Candidate} {candidates : List Candidate} {a b : Entry}
    (before : ProposedBefore candidates a b)
    (silentFirst : ∀ other, ¬ candidate.Proposes a.key other)
    (silentSecond : ∀ other, ¬ candidate.Proposes b.key other) :
    ProposedBefore (candidate :: candidates) a b := by
  rcases before with ⟨first, second, order, isFirst, isSecond⟩
  exact ⟨first + 1, second + 1, Nat.succ_lt_succ order,
    firstProposal_succ_iff.mpr ⟨silentFirst, isFirst⟩,
    firstProposal_succ_iff.mpr ⟨silentSecond, isSecond⟩⟩

/-- Entries are kept in the order of their first proposals. -/
theorem pairwise_firstOfEach (taken : List (List Char)) (candidates : List Candidate) :
    (firstOfEach taken (candidates.filterMap Candidate.entry?)).Pairwise
      (ProposedBefore candidates) := by
  induction candidates generalizing taken with
  | nil => exact .nil
  | cons candidate rest ih =>
      cases proposed : candidate.entry? with
      | none =>
          have silent := candidate.not_proposes_of_entry? proposed
          rw [List.filterMap_cons_none proposed]
          exact (ih taken).imp fun before => before.cons (silent _) (silent _)
      | some head =>
          have silent : ∀ {taken}, head.key ∈ taken →
              ∀ entry ∈ firstOfEach taken (rest.filterMap Candidate.entry?),
                ∀ other, ¬ candidate.Proposes entry.key other := by
            intro taken isTaken entry member other proposes
            apply (mem_firstOfEach_iff.mp member).1
            rw [proposes.key_eq proposed]
            exact isTaken
          have keepsOrder : ∀ {taken}, head.key ∈ taken →
              (firstOfEach taken (rest.filterMap Candidate.entry?)).Pairwise
                (ProposedBefore (candidate :: rest)) := by
            intro taken isTaken
            exact (ih taken).imp_of_mem fun aMem bMem before =>
              before.cons (silent isTaken _ aMem) (silent isTaken _ bMem)
          rw [List.filterMap_cons_some proposed, firstOfEach_cons]
          split
          · rename_i isTaken
            exact keepsOrder isTaken
          · apply List.Pairwise.cons
            · intro entry member
              rcases (mem_firstOfEach_iff.mp member).2 with ⟨place, isFirst⟩
              exact ⟨0, place + 1, Nat.succ_pos place,
                firstProposal_zero_iff.mpr (Candidate.entry?_eq_some_iff.mp proposed),
                firstProposal_succ_iff.mpr
                  ⟨silent List.mem_cons_self entry member, isFirst⟩⟩
            · exact keepsOrder List.mem_cons_self

/-! ## Longer keys first -/

theorem longer_trans (a b c : Entry) (first : decide (b.key.length ≤ a.key.length) = true)
    (second : decide (c.key.length ≤ b.key.length) = true) :
    decide (c.key.length ≤ a.key.length) = true :=
  decide_eq_true (Nat.le_trans (of_decide_eq_true second) (of_decide_eq_true first))

theorem longer_total (a b : Entry) :
    (decide (b.key.length ≤ a.key.length) || decide (a.key.length ≤ b.key.length)) = true := by
  rw [Bool.or_eq_true, decide_eq_true_eq, decide_eq_true_eq]
  exact Nat.le_total _ _

theorem pairwise_longestFirst (entries : List Entry) :
    (longestFirst entries).Pairwise fun a b => b.key.length ≤ a.key.length := by
  have sorted := List.pairwise_mergeSort longer_trans longer_total entries
  exact sorted.imp of_decide_eq_true

/-- The entries whose keys have one length are left in their order. -/
theorem filter_longestFirst (entries : List Entry) (length : Nat) :
    (longestFirst entries).filter (fun entry => entry.key.length == length) =
      entries.filter fun entry => entry.key.length == length := by
  have level : (entries.filter fun entry => entry.key.length == length).Pairwise
      fun a b => decide (b.key.length ≤ a.key.length) = true := by
    apply List.pairwise_of_forall_mem_list
    intro a aMem b bMem
    rw [List.mem_filter, beq_iff_eq] at aMem bMem
    exact decide_eq_true (Nat.le_of_eq (bMem.2.trans aMem.2.symm))
  have stays : (entries.filter fun entry => entry.key.length == length).Sublist
      (longestFirst entries) :=
    List.sublist_mergeSort longer_trans longer_total level List.filter_sublist
  have filtered := stays.filter fun entry => entry.key.length == length
  rw [List.filter_filter] at filtered
  simp only [Bool.and_self] at filtered
  exact (filtered.eq_of_length
    (((List.mergeSort_perm entries _).filter _).length_eq).symm).symm

/-- What holds of the entries in their order holds of those with keys of one length when the
longer keys are put first. -/
theorem pairwise_longestFirst_of_pairwise {entries : List Entry} {R : Entry → Entry → Prop}
    (ordered : entries.Pairwise R) :
    (longestFirst entries).Pairwise fun a b =>
      b.key.length < a.key.length ∨ b.key.length = a.key.length ∧ R a b := by
  rw [List.pairwise_iff_forall_sublist] at ordered ⊢
  intro a b pair
  have longer := List.pairwise_iff_forall_sublist.mp (pairwise_longestFirst entries) pair
  rcases Nat.lt_or_eq_of_le longer with shorter | level
  · exact .inl shorter
  · have kept := pair.filter fun entry => entry.key.length == a.key.length
    rw [filter_longestFirst, List.filter_cons_of_pos (by simp),
      List.filter_cons_of_pos (by simp [level]), List.filter_nil] at kept
    exact .inr ⟨level, ordered (kept.trans List.filter_sublist)⟩

/-! ## Dictionaries -/

/-- The entries of a dictionary are the first proposals. -/
theorem mem_dictionaryOf_iff {terms : List Term} {vocabulary : Vocabulary} {entry : Entry} :
    entry ∈ dictionaryOf terms vocabulary ↔
      ∃ place, FirstProposal (candidates terms vocabulary) entry.key entry.translation place := by
  rw [dictionaryOf, longestFirst, List.mem_mergeSort, mem_firstOfEach_iff]
  exact and_iff_right List.not_mem_nil

theorem pairwise_dictionaryOf (terms : List Term) (vocabulary : Vocabulary) :
    (dictionaryOf terms vocabulary).Pairwise fun a b =>
      b.key.length < a.key.length
        ∨ b.key.length = a.key.length ∧ ProposedBefore (candidates terms vocabulary) a b :=
  pairwise_longestFirst_of_pairwise (pairwise_firstOfEach [] (candidates terms vocabulary))

theorem nodup_keys_dictionaryOf (terms : List Term) (vocabulary : Vocabulary) :
    ((dictionaryOf terms vocabulary).map Entry.key).Nodup := by
  rw [List.Nodup, List.pairwise_map]
  apply (pairwise_dictionaryOf terms vocabulary).imp
  rintro a b (shorter | ⟨_, before⟩) same
  · rw [same] at shorter
    exact absurd shorter (Nat.lt_irrefl _)
  · exact before.key_ne same

/-- With one entry for each key, the entry of a term is the one that has its key. -/
theorem entryOf?_eq_some_iff {entries : List Entry} (distinct : (entries.map Entry.key).Nodup)
    {name : List Char} {entry : Entry} :
    entryOf? entries name = some entry ↔ entry ∈ entries ∧ entry.key = normalizeKey name := by
  constructor
  · exact mem_of_entryOf?
  · rintro ⟨member, isKey⟩
    rcases exists_entryOf? member isKey with ⟨found, isFound⟩
    rcases mem_of_entryOf? isFound with ⟨foundMem, foundKey⟩
    rw [isFound, List.inj_on_of_nodup_map distinct foundMem member
      (foundKey.trans isKey.symm)]

/-- A term has an entry exactly if some candidate proposes a translation for its key, and it is
the translation of the first one that does. No key has two entries and none is empty. Longer
keys come first, and of two keys of one length the one that was proposed first. -/
theorem dictionaryOf_firstProposals (terms : List Term) (vocabulary : Vocabulary) :
    (∀ name, (entryOf? (dictionaryOf terms vocabulary) name).isSome = true ↔
        ∃ candidate ∈ candidates terms vocabulary, ∃ translation,
          candidate.Proposes (normalizeKey name) translation)
      ∧ (∀ name entry, entryOf? (dictionaryOf terms vocabulary) name = some entry ↔
        entry.key = normalizeKey name ∧ ∃ place,
          FirstProposal (candidates terms vocabulary) (normalizeKey name) entry.translation place)
      ∧ ((dictionaryOf terms vocabulary).map Entry.key).Nodup
      ∧ (∀ entry ∈ dictionaryOf terms vocabulary, entry.key ≠ [])
      ∧ (dictionaryOf terms vocabulary).Pairwise fun a b =>
        b.key.length < a.key.length
          ∨ b.key.length = a.key.length
            ∧ ProposedBefore (candidates terms vocabulary) a b := by
  have distinct := nodup_keys_dictionaryOf terms vocabulary
  have isFound : ∀ name entry, entryOf? (dictionaryOf terms vocabulary) name = some entry ↔
      entry.key = normalizeKey name ∧ ∃ place,
        FirstProposal (candidates terms vocabulary) (normalizeKey name) entry.translation
          place := by
    intro name entry
    rw [entryOf?_eq_some_iff distinct, mem_dictionaryOf_iff, and_comm]
    apply and_congr_right
    intro isKey
    rw [isKey]
  constructor
  · intro name
    rw [Option.isSome_iff_exists]
    constructor
    · rintro ⟨entry, isEntry⟩
      rcases ((isFound name entry).mp isEntry).2 with ⟨place, isFirst⟩
      rcases isFirst.proposes with ⟨candidate, isAt, proposes⟩
      exact ⟨candidate, List.mem_of_getElem? isAt, entry.translation, proposes⟩
    · rintro ⟨candidate, member, translation, proposes⟩
      rcases exists_firstProposal member proposes with ⟨first, isFirst⟩
      exact ⟨⟨normalizeKey name, first⟩, (isFound name _).mpr ⟨rfl, isFirst⟩⟩
  · exact ⟨isFound, distinct, fun entry member => (ne_nil_of_mem_dictionaryOf member).1,
      pairwise_dictionaryOf terms vocabulary⟩

end CodeGloss.Glossary
