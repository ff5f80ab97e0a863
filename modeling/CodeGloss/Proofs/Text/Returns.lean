import CodeGloss.Text.Blank
import CodeGloss.Text.Replace
import Mathlib.Data.List.Induction

/-!
# Two conventions of line endings

A text whose lines end with a line feed has a twin whose lines end with a carriage return and a
line feed. A test that does not tell the two characters apart takes and drops the same of both
texts, so both are stripped alike. Before every line feed of the twin stands a carriage return.
-/

namespace CodeGloss.Text

/-- Every line feed as a carriage return and a line feed. -/
def withReturns (text : List Char) : List Char :=
  replaceAll ['\n'] ['\r', '\n'] text

@[simp]
theorem withReturns_nil : withReturns [] = [] :=
  replaceAll_nil _ (List.cons_ne_nil _ _)

@[simp]
theorem withReturns_break (rest : List Char) :
    withReturns ('\n' :: rest) = '\r' :: '\n' :: withReturns rest :=
  replaceAll_append _ (List.cons_ne_nil _ _) rest

theorem withReturns_cons {c : Char} (other : c ≠ '\n') (rest : List Char) :
    withReturns (c :: rest) = c :: withReturns rest := by
  apply replaceAll_cons
  intro starts
  exact other (List.cons_prefix_cons.mp starts).1.symm

theorem withReturns_append (front back : List Char) :
    withReturns (front ++ back) = withReturns front ++ withReturns back := by
  simp only [withReturns, replaceAll_singleton, List.flatMap_append]

/-- A text is followed character by character, with the line feeds apart. -/
theorem returns_induction {motive : List Char → Prop} (empty : motive [])
    (lineFeed : ∀ rest, motive rest → motive ('\n' :: rest))
    (other : ∀ c rest, c ≠ '\n' → motive rest → motive (c :: rest)) (text : List Char) :
    motive text := by
  induction text with
  | nil => exact empty
  | cons c rest ih =>
      by_cases isFeed : c = '\n'
      · rw [isFeed]
        exact lineFeed rest ih
      · exact other c rest isFeed ih

theorem isEmpty_withReturns (text : List Char) : (withReturns text).isEmpty = text.isEmpty := by
  induction text using returns_induction with
  | empty => rw [withReturns_nil]
  | lineFeed rest _ =>
      rw [withReturns_break]
      rfl
  | other c rest other _ =>
      rw [withReturns_cons other]
      rfl

theorem contains_withReturns {c : Char} (noReturn : c ≠ '\r') (text : List Char) :
    (withReturns text).contains c = text.contains c := by
  induction text using returns_induction with
  | empty => rw [withReturns_nil]
  | lineFeed rest ih =>
      rw [withReturns_break, List.contains_cons, List.contains_cons, List.contains_cons, ih,
        beq_false_of_ne noReturn, Bool.false_or]
  | other d rest other ih =>
      rw [withReturns_cons other, List.contains_cons, List.contains_cons, ih]

section Test

variable {test : Char → Bool}

theorem head?_any_withReturns (same : test '\r' = test '\n') (text : List Char) :
    (withReturns text).head?.any test = text.head?.any test := by
  induction text using returns_induction with
  | empty => rw [withReturns_nil]
  | lineFeed rest _ =>
      rw [withReturns_break]
      exact same
  | other c rest other _ =>
      rw [withReturns_cons other]
      rfl

theorem dropWhile_withReturns (same : test '\r' = test '\n') (text : List Char) :
    (withReturns text).dropWhile test = withReturns (text.dropWhile test) := by
  induction text using returns_induction with
  | empty => rw [withReturns_nil, List.dropWhile_nil, withReturns_nil]
  | lineFeed rest ih =>
      rw [withReturns_break, List.dropWhile_cons, List.dropWhile_cons, List.dropWhile_cons, same, ih]
      split
      · rfl
      · rw [withReturns_break]
  | other c rest other ih =>
      rw [withReturns_cons other, List.dropWhile_cons, List.dropWhile_cons, ih]
      split
      · rfl
      · rw [withReturns_cons other]

theorem takeWhile_withReturns (same : test '\r' = test '\n') (text : List Char) :
    (withReturns text).takeWhile test = withReturns (text.takeWhile test) := by
  induction text using returns_induction with
  | empty => rw [withReturns_nil, List.takeWhile_nil, withReturns_nil]
  | lineFeed rest ih =>
      rw [withReturns_break, List.takeWhile_cons, List.takeWhile_cons, List.takeWhile_cons, same, ih]
      split
      · rw [withReturns_break]
      · rw [withReturns_nil]
  | other c rest other ih =>
      rw [withReturns_cons other, List.takeWhile_cons, List.takeWhile_cons, ih]
      split
      · rw [withReturns_cons other]
      · rw [withReturns_nil]

end Test

/-! ## Stripping -/

theorem stripLeft_withReturns (text : List Char) :
    stripLeft (withReturns text) = withReturns (stripLeft text) :=
  dropWhile_withReturns rfl text

theorem stripRight_concat (text : List Char) (c : Char) :
    stripRight (text ++ [c]) = if isBlank c then stripRight text else text ++ [c] := by
  rw [stripRight, List.reverse_append, List.reverse_singleton, List.singleton_append,
    List.dropWhile_cons]
  split
  · rfl
  · rw [List.reverse_cons, List.reverse_reverse]

theorem stripRight_withReturns (text : List Char) :
    stripRight (withReturns text) = withReturns (stripRight text) := by
  induction text using List.reverseRecOn with
  | nil =>
      rw [withReturns_nil]
      exact withReturns_nil.symm
  | append_singleton text c ih =>
      by_cases isFeed : c = '\n'
      · have ends : withReturns (text ++ ['\n']) = withReturns text ++ ['\r'] ++ ['\n'] := by
          rw [withReturns_append, withReturns_break, withReturns_nil, List.append_assoc]
          rfl
        rw [isFeed, ends, stripRight_concat, stripRight_concat, stripRight_concat, ih]
        rfl
      · have ends : withReturns (text ++ [c]) = withReturns text ++ [c] := by
          rw [withReturns_append, withReturns_cons isFeed, withReturns_nil]
        rw [ends, stripRight_concat, stripRight_concat, ih, ← ends]
        split <;> rfl

theorem strip_withReturns (text : List Char) :
    strip (withReturns text) = withReturns (strip text) := by
  rw [strip, stripLeft_withReturns, stripRight_withReturns, strip]

/-! ## Around line feeds -/

/-- What stands behind the last line feed is the same in both conventions. -/
theorem lastLine_withReturns (text : List Char) :
    (withReturns text).reverse.takeWhile (· != '\n') = text.reverse.takeWhile (· != '\n') := by
  induction text using List.reverseRecOn with
  | nil => rw [withReturns_nil]
  | append_singleton text c ih =>
      rw [withReturns_append, List.reverse_append, List.reverse_append]
      by_cases isFeed : c = '\n'
      · rw [isFeed, withReturns_break, withReturns_nil]
        rfl
      · rw [withReturns_cons isFeed, withReturns_nil, List.reverse_singleton,
          List.singleton_append, List.singleton_append, List.takeWhile_cons, List.takeWhile_cons,
          ih]

/-- A word on one line starts both texts or none. -/
theorem withReturns_eq_append_iff {word behind text : List Char} (noBreak : '\n' ∉ word)
    (noReturn : '\r' ∉ word) :
    withReturns text = word ++ behind ↔ ∃ rest, text = word ++ rest ∧ withReturns rest = behind := by
  induction word generalizing text with
  | nil =>
      constructor
      · intro same
        exact ⟨text, rfl, same⟩
      · rintro ⟨_, rfl, same⟩
        exact same
  | cons w word ih =>
      rw [List.mem_cons, not_or] at noBreak noReturn
      cases text with
      | nil =>
          rw [withReturns_nil]
          constructor
          · intro same
            contradiction
          · rintro ⟨_, same, _⟩
            contradiction
      | cons c text =>
          by_cases isFeed : c = '\n'
          · rw [isFeed, withReturns_break]
            constructor
            · intro same
              exact absurd (List.cons.inj same).1 noReturn.1
            · rintro ⟨_, same, _⟩
              exact absurd (List.cons.inj same).1 noBreak.1
          · rw [withReturns_cons isFeed, List.cons_append, List.cons.injEq,
              ih noBreak.2 noReturn.2]
            simp only [List.cons_append, List.cons.injEq, and_assoc, exists_and_left]

/-- A carriage return stands before every line feed. -/
theorem exists_return_of_withReturns {text front back : List Char}
    (parts : withReturns text = front ++ '\n' :: back) : ∃ before, front = before ++ ['\r'] := by
  induction text generalizing front with
  | nil => simp at parts
  | cons c text ih =>
      by_cases isFeed : c = '\n'
      · rw [isFeed, withReturns_break] at parts
        match front with
        | [] => exact absurd (List.cons.inj parts).1 (by decide)
        | [first] =>
            rw [← (List.cons.inj parts).1]
            exact ⟨[], rfl⟩
        | first :: second :: front =>
            rcases ih (List.cons.inj (List.cons.inj parts).2).2 with ⟨before, rfl⟩
            exact ⟨first :: second :: before, rfl⟩
      · rw [withReturns_cons isFeed] at parts
        cases front with
        | nil => exact absurd (List.cons.inj parts).1 isFeed
        | cons first front =>
            rcases ih (List.cons.inj parts).2 with ⟨before, rfl⟩
            exact ⟨first :: before, rfl⟩

end CodeGloss.Text
