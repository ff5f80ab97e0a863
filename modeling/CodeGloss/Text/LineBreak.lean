/-!
# Line breaks

A line ends with a line feed, a carriage return, or the two together. Text files
are read with every line break turned into a line feed.
-/

namespace CodeGloss.Text

/-- Every line break as a line feed. -/
def unifyBreaks : List Char → List Char
  | [] => []
  | '\r' :: '\n' :: rest => '\n' :: unifyBreaks rest
  | '\r' :: rest => '\n' :: unifyBreaks rest
  | c :: rest => c :: unifyBreaks rest

theorem unifyBreaks_cons {c : Char} (other : c ≠ '\r') (rest : List Char) :
    unifyBreaks (c :: rest) = c :: unifyBreaks rest := by
  rw [unifyBreaks]
  · intro _ same
    exact absurd same other
  · exact other

/-- A text without carriage returns is left as it is. -/
theorem unifyBreaks_of_not_mem {text : List Char} (absent : '\r' ∉ text) :
    unifyBreaks text = text := by
  induction text with
  | nil => rfl
  | cons c rest ih =>
      have other : c ≠ '\r' := fun same => absent (by simp [same])
      rw [unifyBreaks_cons other, ih (fun later => absent (by simp [later]))]

/-- No carriage return is left. -/
theorem not_mem_unifyBreaks (text : List Char) : '\r' ∉ unifyBreaks text := by
  fun_induction unifyBreaks text with
  | case1 => simp
  | case2 rest ih => simpa using ih
  | case3 rest _ ih => simpa using ih
  | case4 c rest _ other ih => simpa using ⟨fun same => other same.symm, ih⟩

/-- What stands before a line feed is left as it is, whatever the line breaks behind it. -/
theorem exists_of_unifyBreaks_eq_append {text front after : List Char} (noBreak : '\n' ∉ front)
    (parts : unifyBreaks text = front ++ after) :
    ∃ behind, text = front ++ behind ∧ after = unifyBreaks behind := by
  induction front generalizing text with
  | nil => exact ⟨text, rfl, parts.symm⟩
  | cons c front ih =>
      rw [List.mem_cons, not_or] at noBreak
      rw [unifyBreaks.eq_def] at parts
      split at parts
      · contradiction
      · exact absurd (List.cons.inj parts).1 noBreak.1
      · exact absurd (List.cons.inj parts).1 noBreak.1
      · next d rest _ _ =>
        rw [List.cons_append, List.cons.injEq] at parts
        obtain ⟨rfl, isRest⟩ := parts
        obtain ⟨behind, rfl, isAfter⟩ := ih noBreak.2 isRest
        exact ⟨behind, rfl, isAfter⟩

/-- The part of a text that consists of finished lines. A carriage return at the
end may yet be followed by its line feed, so it finishes no line. -/
def finishedLines (text : List Char) : List Char :=
  let body := if text.getLast? = some '\r' then text.dropLast else text
  (body.reverse.dropWhile fun c => c != '\n' && c != '\r').reverse

end CodeGloss.Text
