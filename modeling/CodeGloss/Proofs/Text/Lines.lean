import CodeGloss.Text.Blank
import CodeGloss.Text.Split

/-!
# Texts line by line

A text is a line without a line feed, or such a line, a line feed and a text. What holds of
lines and is kept by a line in front holds of every text. A word without a line feed that starts
a text starts its first line, and stripping the blanks before a text leaves the first line that
has something else on it.
-/

namespace CodeGloss.Text

/-- Every text is put together from lines. -/
theorem lines_induction {motive : List Char → Prop}
    (last : ∀ line, '\n' ∉ line → motive line)
    (line : ∀ line rest, '\n' ∉ line → motive rest → motive (line ++ '\n' :: rest))
    (text : List Char) : motive text := by
  induction size : text.length using Nat.strongRecOn generalizing text with
  | ind size ih =>
      subst size
      by_cases breaks : '\n' ∈ text
      · rcases List.eq_append_cons_of_mem breaks with ⟨first, rest, rfl, oneLine⟩
        have shorter : rest.length < (first ++ '\n' :: rest).length := by
          rw [List.length_append, List.length_cons]
          exact Nat.lt_add_left _ (Nat.lt_succ_self _)
        exact line first rest oneLine (ih rest.length shorter rest rfl)
      · exact last text breaks

/-- A word starts a text before the first character that is not in the word. -/
theorem prefix_append_cons_iff {word front : List Char} {c : Char} (absent : c ∉ word)
    (back : List Char) : word <+: front ++ c :: back ↔ word <+: front := by
  constructor
  · intro starts
    induction word generalizing front with
    | nil => exact List.nil_prefix
    | cons w word ih =>
        rw [List.mem_cons, not_or] at absent
        cases front with
        | nil => exact absurd (List.cons_prefix_cons.mp starts).1.symm absent.1
        | cons f front =>
            rw [List.cons_append, List.cons_prefix_cons] at starts
            exact List.cons_prefix_cons.mpr ⟨starts.1, ih absent.2 starts.2⟩
  · intro starts
    exact starts.trans (List.prefix_append front (c :: back))

theorem stripLeft_append_of_blank {line : List Char} (blank : isBlankText line = true)
    (rest : List Char) : stripLeft (line ++ rest) = stripLeft rest :=
  List.dropWhile_append_of_pos (List.all_eq_true.mp blank)

theorem stripLeft_append_of_not_blank {line : List Char} (content : isBlankText line ≠ true)
    (rest : List Char) : stripLeft (line ++ rest) = stripLeft line ++ rest := by
  rw [ne_eq, ← stripLeft_eq_nil_iff, stripLeft, ← List.isEmpty_iff] at content
  rw [stripLeft, List.dropWhile_append, if_neg content, stripLeft]

end CodeGloss.Text
