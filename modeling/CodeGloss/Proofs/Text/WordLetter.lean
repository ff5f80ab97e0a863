import CodeGloss.Proofs.Text.Mark
import CodeGloss.Text.Alphanumeric

/-!
# Case keeps word characters

A letter and its lower case are word characters both or neither, and so are two
letters that count as one. There is one exception: the iota subscript, a
combining mark, is the same letter as iota. This is read off the case tables a
run at a time, since a run and its image mostly lie in one range each.
-/

namespace CodeGloss.Text

/-- The combining mark that is the same letter as iota. -/
def iotaSubscript : Char := '\u0345'

/-! ## Ranges and runs -/

namespace CodeRanges

/-- Whether one range holds everything from `low` to `high`. -/
def containsAll : CodeRanges → Nat → Nat → Bool
  | [], _, _ => false
  | range :: rest, low, high =>
      Nat.ble range.1 low && (Nat.ble high range.2 || containsAll rest low high)

/-- Whether no range meets anything from `low` to `high`. -/
def containsNone : CodeRanges → Nat → Nat → Bool
  | [], _, _ => true
  | range :: rest, low, high =>
      Nat.blt high range.1 || (Nat.blt range.2 low && containsNone rest low high)

variable {ranges : CodeRanges} {low high n : Nat}

theorem contains_of_containsAll (all : containsAll ranges low high = true) (above : low ≤ n)
    (below : n ≤ high) : contains ranges n = true := by
  induction ranges with
  | nil => contradiction
  | cons range rest ih =>
      rw [containsAll, Bool.and_eq_true, Bool.or_eq_true, Nat.ble_eq, Nat.ble_eq] at all
      rcases all with ⟨starts, isIn | later⟩
      · rw [contains_cons, if_neg (Nat.not_lt.mpr (Nat.le_trans starts above)),
          decide_eq_true (Nat.le_trans below isIn), Bool.true_or]
      · rw [contains_cons, if_neg (Nat.not_lt.mpr (Nat.le_trans starts above)), ih later, Bool.or_true]

theorem contains_of_containsNone (none : containsNone ranges low high = true) (above : low ≤ n)
    (below : n ≤ high) : contains ranges n = false := by
  induction ranges with
  | nil => rfl
  | cons range rest ih =>
      rw [containsNone, Bool.or_eq_true, Bool.and_eq_true, Nat.blt_eq, Nat.blt_eq] at none
      rw [contains_cons]
      rcases none with starts | ⟨ends, later⟩
      · rw [if_pos (Nat.lt_of_le_of_lt below starts)]
      · split
        · rfl
        · rw [ih later, Bool.or_false, decide_eq_false_iff_not]
          exact Nat.not_le.mpr (Nat.lt_of_lt_of_le ends above)

end CodeRanges

namespace CaseRun

/-- The code points that a run moves. -/
def codes (run : CaseRun) : List Nat :=
  List.range' run.first ((run.last - run.first) / run.step + 1) run.step

theorem mem_codes {run : CaseRun} {n : Nat} (above : run.first ≤ n) (below : n ≤ run.last)
    (onStep : (n - run.first) % run.step = 0) : n ∈ run.codes := by
  rw [codes, List.mem_range']
  refine ⟨(n - run.first) / run.step, ?_, ?_⟩
  · exact Nat.lt_succ_of_le (Nat.div_le_div_right (Nat.sub_le_sub_right below run.first))
  · have multiple := Nat.mul_div_cancel' (Nat.dvd_of_mod_eq_zero onStep)
    rw [multiple, Nat.add_sub_cancel' above]

/-- Whether a run moves word characters to word characters and others to others. A run
with gaps is read code point by code point. -/
def keepsWords (run : CaseRun) : Bool :=
  (alphanumericRanges.containsAll run.first run.last
      && alphanumericRanges.containsAll (run.first + run.shift).toNat (run.last + run.shift).toNat)
    || (alphanumericRanges.containsNone run.first run.last
      && alphanumericRanges.containsNone (run.first + run.shift).toNat
        (run.last + run.shift).toNat)
    || run.codes.all fun n =>
      alphanumericRanges.contains (n + run.shift).toNat == alphanumericRanges.contains n

/-- Whether the images of a run are characters, and none is the iota subscript. -/
def keepsCharacters (run : CaseRun) : Bool :=
  0 ≤ run.first + run.shift
    && (run.last + run.shift < 0x345
      || (0x345 < run.first + run.shift && run.last + run.shift < 0xD800)
      || (0xDFFF < run.first + run.shift && run.last + run.shift < 0x110000))

variable {run : CaseRun} {n : Nat}

theorem contains_shift (keeps : run.keepsWords = true) (above : run.first ≤ n)
    (below : n ≤ run.last) (onStep : (n - run.first) % run.step = 0) :
    alphanumericRanges.contains (n + run.shift).toNat = alphanumericRanges.contains n := by
  have imageAbove : (run.first + run.shift).toNat ≤ (n + run.shift).toNat := by omega
  have imageBelow : (n + run.shift).toNat ≤ (run.last + run.shift).toNat := by omega
  rw [keepsWords, Bool.or_eq_true, Bool.or_eq_true, Bool.and_eq_true, Bool.and_eq_true] at keeps
  rcases keeps with (⟨words, images⟩ | ⟨words, images⟩) | eachCode
  · rw [CodeRanges.contains_of_containsAll words above below,
      CodeRanges.contains_of_containsAll images imageAbove imageBelow]
  · rw [CodeRanges.contains_of_containsNone words above below,
      CodeRanges.contains_of_containsNone images imageAbove imageBelow]
  · exact beq_iff_eq.mp (List.all_eq_true.mp eachCode n (mem_codes above below onStep))

theorem isValidChar_shift (keeps : run.keepsCharacters = true) (above : run.first ≤ n)
    (below : n ≤ run.last) :
    (n + run.shift).toNat.isValidChar ∧ (n + run.shift).toNat ≠ 0x345 := by
  simp only [keepsCharacters, Bool.and_eq_true, Bool.or_eq_true, decide_eq_true_eq] at keeps
  unfold Nat.isValidChar
  omega

end CaseRun

theorem lowerRuns_keep_words : lowerRuns.all CaseRun.keepsWords = true := by
  decide +kernel

theorem lowerRuns_keep_characters : lowerRuns.all CaseRun.keepsCharacters = true := by
  decide

/-- A case mapping leaves a code point alone or moves it with one of its runs. -/
theorem mapCase_cases (runs : List CaseRun) (n : Nat) :
    mapCase runs n = n ∨ ∃ run ∈ runs, run.first ≤ n ∧ n ≤ run.last
      ∧ (n - run.first) % run.step = 0 ∧ mapCase runs n = (n + run.shift).toNat := by
  induction runs with
  | nil => exact .inl rfl
  | cons run rest ih =>
      rw [mapCase]
      split
      · exact .inl rfl
      · rename_i above
        split
        · rename_i below
          split
          · rename_i onStep
            exact .inr ⟨run, List.mem_cons_self, Nat.le_of_not_lt above, below, onStep, rfl⟩
          · exact .inl rfl
        · rcases ih with same | ⟨later, laterMem, moved⟩
          · exact .inl same
          · exact .inr ⟨later, List.mem_cons_of_mem run laterMem, moved⟩

/-! ## Letters -/

/-- The lower case of a letter that a run moves is the image in the run, and not the iota
subscript. -/
theorem toNat_lowerLetter_of_moved {run : CaseRun} {c : Char} (runMem : run ∈ lowerRuns)
    (above : run.first ≤ c.toNat) (below : c.toNat ≤ run.last)
    (moved : mapCase lowerRuns c.toNat = (c.toNat + run.shift).toNat) :
    (lowerLetter c).toNat = (c.toNat + run.shift).toNat ∧ (c.toNat + run.shift).toNat ≠ 0x345 := by
  have keeps := List.all_eq_true.mp lowerRuns_keep_characters run runMem
  rcases CaseRun.isValidChar_shift keeps above below with ⟨valid, notIota⟩
  refine ⟨?_, notIota⟩
  rw [lowerLetter, moved, Char.ofNat, dif_pos valid]
  rfl

/-- The lower case of a letter is the letter itself, or a letter of the same kind other than
the iota subscript. -/
theorem lowerLetter_cases (c : Char) :
    lowerLetter c = c
      ∨ isAlphanumeric (lowerLetter c) = isAlphanumeric c ∧ lowerLetter c ≠ iotaSubscript := by
  rcases mapCase_cases lowerRuns c.toNat with same | ⟨run, runMem, above, below, onStep, moved⟩
  · left
    rw [lowerLetter, same, Char.ofNat_toNat]
  · right
    have keepsWords := List.all_eq_true.mp lowerRuns_keep_words run runMem
    rcases toNat_lowerLetter_of_moved runMem above below moved with ⟨code, notIota⟩
    constructor
    · rw [isAlphanumeric, code, CaseRun.contains_shift keepsWords above below onStep,
        isAlphanumeric]
    · intro isIota
      rw [isIota] at code
      exact notIota code.symm

theorem isWord_lowerLetter (c : Char) : isWord (lowerLetter c) = isWord c := by
  rcases lowerLetter_cases c with same | ⟨sameKind, _⟩
  · rw [same]
  · have underscore : lowerLetter c = '_' ↔ c = '_' := by
      constructor
      · intro isUnderscore
        rw [← isUnderscore]
        exact (lowerLetter_eq_self_of_isMark (by rw [isUnderscore]; rfl)).symm
      · rintro rfl
        exact lowerLetter_of_isMark rfl
    rw [isWord, isWord, sameKind, Bool.eq_iff_iff, Bool.or_eq_true, Bool.or_eq_true, beq_iff_eq,
      beq_iff_eq, underscore]

theorem eq_iotaSubscript_of_lowerLetter {c : Char} (isIota : lowerLetter c = iotaSubscript) :
    c = iotaSubscript := by
  rcases lowerLetter_cases c with same | ⟨_, notIota⟩
  · exact same.symm.trans isIota
  · exact absurd isIota notIota

theorem sameLetterAs_are_words :
    sameLetterAs.all (fun entry => isWord (Char.ofNat entry.1)
      && (Char.ofNat entry.2 == iotaSubscript || isWord (Char.ofNat entry.2))) = true := by
  decide +kernel

theorem isWord_iotaSubscript : isWord iotaSubscript = false := by
  decide +kernel

/-- The case key of a letter is of the same kind, but a word character may have the iota
subscript as its key. -/
theorem caseKey_cases (c : Char) :
    isWord (caseKey c) = isWord c ∧ (caseKey c = iotaSubscript → c = iotaSubscript)
      ∨ caseKey c = iotaSubscript ∧ isWord c = true := by
  unfold caseKey
  simp only
  split
  · rename_i code found
    have isEntry := List.all_eq_true.mp sameLetterAs_are_words _ (mem_of_lookup_eq_some found)
    rw [Bool.and_eq_true, Bool.or_eq_true, beq_iff_eq, Char.ofNat_toNat, isWord_lowerLetter]
      at isEntry
    rcases isEntry with ⟨word, isIota | image⟩
    · exact .inr ⟨isIota, word⟩
    · refine .inl ⟨image.trans word.symm, ?_⟩
      intro isIota
      rw [isIota, isWord_iotaSubscript] at image
      contradiction
  · exact .inl ⟨isWord_lowerLetter c, eq_iotaSubscript_of_lowerLetter⟩

/-- What is the same letter as a word character is a word character too, or it is the iota
subscript. -/
theorem isWord_of_sameLetter {k c : Char} (word : isWord k = true)
    (same : sameLetter k c = true) : isWord c = true ∨ c = iotaSubscript := by
  rw [sameLetter, beq_iff_eq] at same
  rcases caseKey_cases c with ⟨sameKind, onlyIota⟩ | ⟨_, isKind⟩
  · rcases caseKey_cases k with ⟨sameKindK, _⟩ | ⟨isIota, _⟩
    · left
      rw [← sameKind, ← same, sameKindK, word]
    · right
      exact onlyIota (same.symm.trans isIota)
  · exact .inl isKind

end CodeGloss.Text
