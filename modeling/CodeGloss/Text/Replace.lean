/-!
# Replacing substrings

Replacement runs from left to right and never looks at what it has written.
An empty pattern occurs before every character and at the end.
-/

namespace CodeGloss.Text

/-- Replace every occurrence of `old` by `new`, from the left, without overlap. -/
def replaceAll (old new : List Char) : List Char → List Char
  | [] => if old.isEmpty then new else []
  | c :: rest =>
      if old.isEmpty then new ++ c :: replaceAll old new rest
      else if old.isPrefixOf (c :: rest) then
        new ++ replaceAll old new (rest.drop (old.length - 1))
      else c :: replaceAll old new rest
termination_by text => text.length
decreasing_by
  · simp
  · simp only [List.length_drop, List.length_cons]; omega
  · simp

@[simp]
theorem replaceAll_nil {old : List Char} (new : List Char) (nonempty : old ≠ []) :
    replaceAll old new [] = [] := by
  unfold replaceAll
  simp [nonempty]

/-- Where the pattern does not start, a character stays. -/
theorem replaceAll_cons {old : List Char} (new : List Char) {c : Char} {rest : List Char}
    (noMatch : ¬ old <+: c :: rest) :
    replaceAll old new (c :: rest) = c :: replaceAll old new rest := by
  have nonempty : ¬ old.isEmpty = true := by
    rw [List.isEmpty_iff]
    rintro rfl
    exact noMatch List.nil_prefix
  rw [← List.isPrefixOf_iff_prefix] at noMatch
  rw [replaceAll, if_neg nonempty, if_neg noMatch]

/-- Where the pattern starts, it is taken whole. -/
theorem replaceAll_append {old : List Char} (new : List Char) (nonempty : old ≠ [])
    (rest : List Char) : replaceAll old new (old ++ rest) = new ++ replaceAll old new rest := by
  cases old with
  | nil => contradiction
  | cons c old =>
      have starts : (c :: old).isPrefixOf (c :: (old ++ rest)) = true := by
        rw [List.isPrefixOf_iff_prefix]
        exact List.prefix_append (c :: old) rest
      rw [List.cons_append, replaceAll, if_neg (by simp), if_pos starts, List.length_cons,
        Nat.add_sub_cancel, List.drop_left]

/-- For a one-character pattern replacement goes character by character. -/
theorem replaceAll_singleton (c : Char) (new text : List Char) :
    replaceAll [c] new text = text.flatMap fun x => if x = c then new else [x] := by
  induction text with
  | nil => simp
  | cons x rest ih =>
      unfold replaceAll
      by_cases same : x = c
      · simp [same, ih]
      · have differs : ¬ c = x := fun h => same h.symm
        simp [same, differs, ih]

end CodeGloss.Text
