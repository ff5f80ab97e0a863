import CodeGloss.Glossary.Casing

/-!
# Marks have no case

Quotes, backslashes, line feeds and the other ASCII characters that are no
letters play a part in the syntax of a source. Case neither makes nor hides
them: a mark is the same letter as itself alone, and a text in another case has
no mark that it did not have before. This is read off the case tables, whose
images are letters or lie beyond ASCII.

The null character is not counted as a mark, since it also stands for what is
no code point.
-/

namespace CodeGloss.Text

def isMarkCode (n : Nat) : Bool :=
  0 < n && (n < 0x41 || (0x5A < n && n < 0x61) || (0x7A < n && n < 0x80))

/-- ASCII characters that are no letters. -/
def isMark (c : Char) : Bool :=
  isMarkCode c.toNat

theorem mem_of_lookup_eq_some {β : Type} {table : List (Nat × β)} {n : Nat} {value : β}
    (found : table.lookup n = some value) : (n, value) ∈ table := by
  rcases List.lookup_eq_some_iff.mp found with ⟨before, after, rfl, _⟩
  simp

theorem toNat_ofNat_of_isMark {n : Nat} (mark : isMark (Char.ofNat n) = true) :
    (Char.ofNat n).toNat = n := by
  by_cases valid : n.isValidChar
  · rw [Char.ofNat, dif_pos valid]
    rfl
  · simp [Char.ofNat, valid, isMark, isMarkCode] at mark

/-! ## Case tables -/

/-- Whether a run moves its code points to letters or beyond ASCII. -/
def CaseRun.avoidsMarks (run : CaseRun) : Bool :=
  (0x41 ≤ run.first + run.shift && run.last + run.shift ≤ 0x5A)
    || (0x61 ≤ run.first + run.shift && run.last + run.shift ≤ 0x7A)
    || 0x80 ≤ run.first + run.shift

theorem CaseRun.isMarkCode_shift {run : CaseRun} {n : Nat} (avoids : run.avoidsMarks = true)
    (above : run.first ≤ n) (below : n ≤ run.last) :
    isMarkCode (n + run.shift).toNat = false := by
  simp only [avoidsMarks, Bool.or_eq_true, Bool.and_eq_true, decide_eq_true_eq] at avoids
  rw [Bool.eq_false_iff]
  intro mark
  simp only [isMarkCode, Bool.or_eq_true, Bool.and_eq_true, decide_eq_true_eq] at mark
  omega

theorem mapCase_eq_self_of_isMarkCode {runs : List CaseRun} {n : Nat}
    (avoid : runs.all CaseRun.avoidsMarks = true) (mark : isMarkCode (mapCase runs n) = true) :
    mapCase runs n = n := by
  induction runs with
  | nil => rfl
  | cons run rest ih =>
      rw [List.all_cons, Bool.and_eq_true] at avoid
      simp only [mapCase] at mark ⊢
      split
      · rfl
      · rename_i above
        rw [if_neg above] at mark
        split
        · rename_i below
          rw [if_pos below] at mark
          split
          · rename_i onStep
            rw [if_pos onStep, CaseRun.isMarkCode_shift avoid.1 (by omega) below] at mark
            contradiction
          · rfl
        · rename_i below
          rw [if_neg below] at mark
          exact ih avoid.2 mark

theorem lowerRuns_avoid_marks : lowerRuns.all CaseRun.avoidsMarks = true := by
  decide

theorem upperRuns_avoid_marks : upperRuns.all CaseRun.avoidsMarks = true := by
  decide

theorem upperExpansions_avoid_marks :
    upperExpansions.all (fun entry => !entry.2.isEmpty && entry.2.all (!isMarkCode ·)) = true := by
  decide

theorem upperExpansions_beyond_ascii :
    upperExpansions.all (fun entry => 0x80 ≤ entry.1) = true := by
  decide

theorem sameLetterAs_avoid_marks :
    sameLetterAs.all (fun entry => !isMarkCode entry.2) = true := by
  decide

/-! ## Letters -/

theorem lowerLetter_eq_self_of_isMark {c : Char} (mark : isMark (lowerLetter c) = true) :
    lowerLetter c = c := by
  have code : (lowerLetter c).toNat = mapCase lowerRuns c.toNat := toNat_ofNat_of_isMark mark
  have same : mapCase lowerRuns c.toNat = c.toNat :=
    mapCase_eq_self_of_isMarkCode lowerRuns_avoid_marks (by rw [← code]; exact mark)
  rw [lowerLetter, same, Char.ofNat_toNat]

theorem lowerLetter_of_isMark {c : Char} (mark : isMark c = true) : lowerLetter c = c := by
  have fixed : ∀ n < 0x80, isMarkCode n = true → mapCase lowerRuns n = n := by decide
  have small : c.toNat < 0x80 := by
    simp only [isMark, isMarkCode, Bool.or_eq_true, Bool.and_eq_true, decide_eq_true_eq] at mark
    omega
  rw [lowerLetter, fixed c.toNat small mark, Char.ofNat_toNat]

theorem caseKey_eq_self_of_isMark {c : Char} (mark : isMark (caseKey c) = true) :
    caseKey c = c := by
  simp only [caseKey] at mark ⊢
  split
  · rename_i code found
    simp only [found] at mark
    have entryMem := mem_of_lookup_eq_some found
    have noMark := List.all_eq_true.mp sameLetterAs_avoid_marks _ entryMem
    rw [isMark, toNat_ofNat_of_isMark mark] at mark
    simp [mark] at noMark
  · rename_i absent
    simp only [absent] at mark
    exact lowerLetter_eq_self_of_isMark mark

theorem caseKey_of_isMark {c : Char} (mark : isMark c = true) : caseKey c = c := by
  have absent : ∀ n < 0x80, sameLetterAs.lookup n = none := by decide
  have small : c.toNat < 0x80 := by
    simp only [isMark, isMarkCode, Bool.or_eq_true, Bool.and_eq_true, decide_eq_true_eq] at mark
    omega
  simp only [caseKey, lowerLetter_of_isMark mark, absent c.toNat small]

/-- A mark is the same letter as itself alone. -/
theorem eq_of_sameLetter_of_isMark {k c : Char} (same : sameLetter k c = true)
    (mark : isMark c = true) : k = c := by
  rw [sameLetter, beq_iff_eq, caseKey_of_isMark mark] at same
  rw [← same]
  exact (caseKey_eq_self_of_isMark (by rw [same]; exact mark)).symm

/-! ## Texts in another case -/

theorem upperLetter_of_isMark {c : Char} (mark : isMark c = true) : upperLetter c = [c] := by
  have fixed : ∀ n < 0x80, isMarkCode n = true → mapCase upperRuns n = n := by decide
  have small : c.toNat < 0x80 := by
    simp only [isMark, isMarkCode, Bool.or_eq_true, Bool.and_eq_true, decide_eq_true_eq] at mark
    omega
  unfold upperLetter
  split
  · rename_i codes found
    have beyond := List.all_eq_true.mp upperExpansions_beyond_ascii _ (mem_of_lookup_eq_some found)
    rw [decide_eq_true_eq] at beyond
    omega
  · rw [fixed c.toNat small mark, Char.ofNat_toNat]

theorem lowerAt_of_isMark {c : Char} (mark : isMark c = true) (before after : List Char) :
    lowerAt before c after = [c] := by
  have noSigma : c ≠ 'Σ' := by
    rintro rfl
    exact absurd mark (by decide)
  have noDotted : c ≠ 'İ' := by
    rintro rfl
    exact absurd mark (by decide)
  rw [lowerAt, if_neg noSigma, if_neg noDotted, lowerLetter_of_isMark mark]

theorem upperLetter_ne_nil (c : Char) : upperLetter c ≠ [] := by
  unfold upperLetter
  split
  · rename_i codes found
    have entryMem := mem_of_lookup_eq_some found
    have nonempty := List.all_eq_true.mp upperExpansions_avoid_marks _ entryMem
    intro empty
    simp [List.map_eq_nil_iff.mp empty] at nonempty
  · simp

theorem eq_of_mem_upperLetter {x c : Char} (member : x ∈ upperLetter c)
    (mark : isMark x = true) : x = c := by
  unfold upperLetter at member
  split at member
  · rename_i codes found
    rcases List.mem_map.mp member with ⟨code, codeMem, rfl⟩
    have entryMem := mem_of_lookup_eq_some found
    have noMarks := List.all_eq_true.mp upperExpansions_avoid_marks _ entryMem
    rw [Bool.and_eq_true] at noMarks
    have noMark := List.all_eq_true.mp noMarks.2 code codeMem
    rw [isMark, toNat_ofNat_of_isMark mark] at mark
    simp [mark] at noMark
  · rw [List.mem_singleton] at member
    subst member
    have code := toNat_ofNat_of_isMark mark
    have same : mapCase upperRuns c.toNat = c.toNat :=
      mapCase_eq_self_of_isMarkCode upperRuns_avoid_marks (by rw [← code]; exact mark)
    rw [same, Char.ofNat_toNat]

theorem lowerAt_ne_nil (before : List Char) (c : Char) (after : List Char) :
    lowerAt before c after ≠ [] := by
  unfold lowerAt
  split
  · simp
  · split <;> simp

theorem eq_of_mem_lowerAt {x c : Char} {before after : List Char}
    (member : x ∈ lowerAt before c after) (mark : isMark x = true) : x = c := by
  unfold lowerAt at member
  split at member
  · rw [List.mem_singleton] at member
    subst member
    split at mark <;> exact absurd mark (by decide)
  · split at member
    · rw [List.mem_cons, List.mem_singleton] at member
      rcases member with rfl | rfl <;> exact absurd mark (by decide)
    · rw [List.mem_singleton] at member
      subst member
      exact lowerLetter_eq_self_of_isMark mark

theorem mem_of_mem_upper {x : Char} {text : List Char} (member : x ∈ upper text)
    (mark : isMark x = true) : x ∈ text := by
  rcases List.mem_flatMap.mp member with ⟨c, cMem, inUpper⟩
  rw [eq_of_mem_upperLetter inUpper mark]
  exact cMem

theorem mem_of_mem_lowerFrom {x : Char} {before text : List Char}
    (member : x ∈ lowerFrom before text) (mark : isMark x = true) : x ∈ text := by
  induction text generalizing before with
  | nil => simp at member
  | cons c rest ih =>
      rw [lowerFrom_cons, List.mem_append] at member
      rcases member with here | later
      · rw [eq_of_mem_lowerAt here mark]
        exact List.mem_cons_self
      · exact List.mem_cons_of_mem c (ih later)

theorem mem_of_mem_capitalize {x : Char} {text : List Char} (member : x ∈ capitalize text)
    (mark : isMark x = true) : x ∈ text := by
  cases text with
  | nil => exact member
  | cons c rest =>
      rw [capitalize, List.mem_append] at member
      rcases member with here | later
      · rw [eq_of_mem_upperLetter here mark]
        exact List.mem_cons_self
      · exact List.mem_cons_of_mem c later

end CodeGloss.Text

namespace CodeGloss.Glossary

open Text

/-- A translation has no mark in the case of a sample that it has not by itself. -/
theorem mem_of_mem_matchCase {x : Char} {translation sample : List Char}
    (member : x ∈ matchCase translation sample) (mark : isMark x = true) : x ∈ translation := by
  rcases matchCase_cases translation sample with same | same | same | same <;>
    rw [same] at member
  · exact member
  · exact mem_of_mem_upper member mark
  · exact mem_of_mem_lowerFrom member mark
  · exact mem_of_mem_capitalize member mark

theorem matchCase_ne_nil {translation : List Char} (sample : List Char)
    (nonempty : translation ≠ []) : matchCase translation sample ≠ [] := by
  rcases List.exists_cons_of_ne_nil nonempty with ⟨c, rest, rfl⟩
  rcases matchCase_cases (c :: rest) sample with same | same | same | same <;> rw [same]
  · exact nonempty
  · simp [upperLetter_ne_nil c]
  · simp [lower, lowerAt_ne_nil [] c rest]
  · simp [capitalize, upperLetter_ne_nil c]

end CodeGloss.Glossary
