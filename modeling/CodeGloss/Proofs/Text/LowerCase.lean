import CodeGloss.Proofs.Text.WordLetter

/-!
# Lower case is the same letter

The lower case of a letter is in lower case and is the same letter, so a text and its lower
case agree letter by letter. The one exception is the capital I with a dot: its lower case is
two characters. That no run of the case table moves an image of a run is read off two runs at
a time: their ranges lie apart, or the images lie between the letters that the other run moves.
-/

namespace CodeGloss.Text

namespace CaseRun

/-- Whether no image of the run is moved by the other one. -/
def avoids (run other : CaseRun) : Bool :=
  let low := (run.first + run.shift).toNat
  let high := (run.last + run.shift).toNat
  Nat.blt other.last low || Nat.blt high other.first
    || ((run.step == 2 || run.first == run.last) && other.step == 2
      && (low + other.first) % 2 == 1)

theorem not_onStep_of_avoids {run other : CaseRun} {n : Nat} (avoids : run.avoids other = true)
    (starts : 0 ≤ run.first + run.shift) (above : run.first ≤ n) (below : n ≤ run.last)
    (onStep : (n - run.first) % run.step = 0) (otherAbove : other.first ≤ (n + run.shift).toNat)
    (otherBelow : (n + run.shift).toNat ≤ other.last) :
    ((n + run.shift).toNat - other.first) % other.step ≠ 0 := by
  simp only [CaseRun.avoids, Bool.or_eq_true, Bool.and_eq_true, Nat.blt_eq, beq_iff_eq] at avoids
  rcases avoids with (apart | apart) | ⟨⟨isTwo | isSingle, otherIsTwo⟩, between⟩
  · omega
  · omega
  · rw [isTwo] at onStep
    rw [otherIsTwo]
    omega
  · rw [otherIsTwo]
    omega

end CaseRun

theorem lowerRuns_avoid_lowerRuns :
    lowerRuns.all (fun run => lowerRuns.all run.avoids) = true := by
  decide +kernel

theorem lowerLetter_lowerLetter (c : Char) : lowerLetter (lowerLetter c) = lowerLetter c := by
  rcases mapCase_cases lowerRuns c.toNat with same | ⟨run, runMem, above, below, onStep, moved⟩
  · have isLower : lowerLetter c = c := by rw [lowerLetter, same, Char.ofNat_toNat]
    rw [isLower, isLower]
  · have code := (toNat_lowerLetter_of_moved runMem above below moved).1
    have keeps := List.all_eq_true.mp lowerRuns_keep_characters run runMem
    have starts : 0 ≤ run.first + run.shift := by
      simp only [CaseRun.keepsCharacters, Bool.and_eq_true, decide_eq_true_eq] at keeps
      exact keeps.1
    have stays : mapCase lowerRuns (lowerLetter c).toNat = (lowerLetter c).toNat := by
      rcases mapCase_cases lowerRuns (lowerLetter c).toNat with same | ⟨other, otherMem, again⟩
      · exact same
      · rw [code] at again
        have avoids := List.all_eq_true.mp
          (List.all_eq_true.mp lowerRuns_avoid_lowerRuns run runMem) other otherMem
        exact absurd again.2.2.1
          (CaseRun.not_onStep_of_avoids avoids starts above below onStep again.1 again.2.1)
    rw [lowerLetter, stays, Char.ofNat_toNat]

theorem sameLetter_lowerLetter (c : Char) : sameLetter (lowerLetter c) c = true := by
  rw [sameLetter, caseKey, caseKey, lowerLetter_lowerLetter, beq_self_eq_true]

/-! ## Texts -/

section Places

variable (before after : List Char)

theorem lowerAt_dottedI : lowerAt before 'İ' after = ['i', '\u0307'] := by
  rw [lowerAt, if_neg (by decide), if_pos rfl]

/-- Wherever it stands, the lower case of any other letter is one character, and the same
letter. -/
theorem exists_lowerAt {c : Char} (plain : c ≠ 'İ') :
    ∃ small, lowerAt before c after = [small] ∧ sameLetter small c = true := by
  by_cases isSigma : c = 'Σ'
  · subst isSigma
    have finalSigma : sameLetter 'ς' 'Σ' = true := by decide +kernel
    have medialSigma : sameLetter 'σ' 'Σ' = true := by decide +kernel
    rw [lowerAt, if_pos rfl]
    split
    · exact ⟨'ς', rfl, finalSigma⟩
    · exact ⟨'σ', rfl, medialSigma⟩
  · rw [lowerAt, if_neg isSigma, if_neg plain]
    exact ⟨lowerLetter c, rfl, sameLetter_lowerLetter c⟩

theorem lowerAt_iotaSubscript : lowerAt before iotaSubscript after = [iotaSubscript] := by
  have isLower : lowerLetter iotaSubscript = iotaSubscript := by decide +kernel
  rw [lowerAt, if_neg (by decide), if_neg (by decide), isLower]

end Places

/-- A text grows in lower case by one character for each dotted capital I. -/
theorem length_lower (text : List Char) :
    (lower text).length = text.length + text.count 'İ' := by
  suffices grows : ∀ before, (lowerFrom before text).length = text.length + text.count 'İ' from
    grows []
  induction text with
  | nil => exact fun _ => rfl
  | cons c rest ih =>
      intro before
      rw [lowerFrom_cons, List.length_append, ih, List.length_cons, List.count_cons]
      by_cases dotted : c = 'İ'
      · subst dotted
        rw [lowerAt_dottedI, beq_self_eq_true, if_pos rfl, List.length_cons, List.length_singleton]
        omega
      · rcases exists_lowerAt before rest dotted with ⟨small, isSmall, _⟩
        rw [isSmall, List.length_singleton, if_neg (by simpa using dotted)]
        omega

theorem iotaSubscript_mem_lower {text : List Char} (member : iotaSubscript ∈ text) :
    iotaSubscript ∈ lower text := by
  suffices kept : ∀ before, iotaSubscript ∈ lowerFrom before text from kept []
  induction text with
  | nil => contradiction
  | cons c rest ih =>
      intro before
      rw [lowerFrom_cons, List.mem_append]
      rcases List.mem_cons.mp member with rfl | later
      · rw [lowerAt_iotaSubscript]
        exact .inl List.mem_cons_self
      · exact .inr (ih later (c :: before))

end CodeGloss.Text
