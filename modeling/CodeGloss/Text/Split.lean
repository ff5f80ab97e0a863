/-!
# Splitting and joining

A text splits at every occurrence of a mark, searched from left to right without
overlap. The parts are what lies between, so there is always one more part than
there are marks. Joining puts the mark between parts.
-/

namespace CodeGloss.Text

/-- Put a text before the first of the parts. -/
def extendFirst (front : List Char) : List (List Char) → List (List Char)
  | [] => [front]
  | first :: rest => (front ++ first) :: rest

/-- The parts between the occurrences of `mark`. An empty mark occurs nowhere. -/
def splitOn (mark : List Char) : List Char → List (List Char)
  | [] => [[]]
  | c :: rest =>
      if !mark.isEmpty && mark.isPrefixOf (c :: rest) then
        [] :: splitOn mark (rest.drop (mark.length - 1))
      else extendFirst [c] (splitOn mark rest)
termination_by text => text.length
decreasing_by
  · simp only [List.length_drop, List.length_cons]; omega
  · simp

/-- The parts with `mark` between neighbours. -/
def joinWith (mark : List Char) : List (List Char) → List Char
  | [] => []
  | [part] => part
  | part :: next :: rest => part ++ mark ++ joinWith mark (next :: rest)

@[simp]
theorem splitOn_nil (mark : List Char) : splitOn mark [] = [[]] := by
  unfold splitOn
  rfl

/-- What stands in a part stands in the parts together. -/
theorem mem_joinWith_of_mem (mark : List Char) {parts : List (List Char)} {part : List Char}
    (member : part ∈ parts) {c : Char} (inPart : c ∈ part) : c ∈ joinWith mark parts := by
  fun_induction joinWith mark parts with
  | case1 => contradiction
  | case2 only =>
      rw [List.mem_singleton.mp member] at inPart
      exact inPart
  | case3 first next rest ih =>
      rcases List.mem_cons.mp member with rfl | later
      · simp [inPart]
      · simp [ih later]

/-! ## Marks of one character -/

section Mark

variable {m : Char}

theorem splitOn_cons_self (m : Char) (rest : List Char) :
    splitOn [m] (m :: rest) = [] :: splitOn [m] rest := by
  rw [splitOn]
  simp

theorem splitOn_cons_of_ne {c : Char} (other : c ≠ m) (rest : List Char) :
    splitOn [m] (c :: rest) = extendFirst [c] (splitOn [m] rest) := by
  rw [splitOn]
  simp [other.symm]

theorem splitOn_of_not_mem {part : List Char} (absent : m ∉ part) : splitOn [m] part = [part] := by
  induction part with
  | nil => exact splitOn_nil [m]
  | cons c part ih =>
      rw [List.mem_cons, not_or] at absent
      rw [splitOn_cons_of_ne (Ne.symm absent.1), ih absent.2]
      rfl

theorem splitOn_append_cons {part : List Char} (absent : m ∉ part) (rest : List Char) :
    splitOn [m] (part ++ m :: rest) = part :: splitOn [m] rest := by
  induction part with
  | nil => exact splitOn_cons_self m rest
  | cons c part ih =>
      rw [List.mem_cons, not_or] at absent
      rw [List.cons_append, splitOn_cons_of_ne (Ne.symm absent.1), ih absent.2]
      rfl

/-- Splitting undoes joining if the mark is in no part. -/
theorem splitOn_joinWith {parts : List (List Char)} (nonempty : parts ≠ [])
    (absent : ∀ part ∈ parts, m ∉ part) : splitOn [m] (joinWith [m] parts) = parts := by
  match parts with
  | [] => contradiction
  | [part] => exact splitOn_of_not_mem (absent part List.mem_cons_self)
  | part :: next :: rest =>
      have absentRest := List.forall_mem_cons.mp absent
      rw [joinWith, List.append_assoc, List.singleton_append, splitOn_append_cons absentRest.1,
        splitOn_joinWith (List.cons_ne_nil next rest) absentRest.2]

end Mark

end CodeGloss.Text
