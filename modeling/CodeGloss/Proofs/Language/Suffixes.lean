import CodeGloss.Language.Detection

/-!
# Tests on suffixes

A test is tried at every place of a text, or at the start of every line. What stands on one line
alone is tried once, and a line in front of a text adds one try to those of the text.
-/

namespace CodeGloss.Language

open Text

/-! ## Suffixes -/

theorem somewhere_iff {test : List Char → Bool} {text : List Char} :
    somewhere test text = true ↔ ∃ place, test (text.drop place) = true := by
  induction text with
  | nil =>
      constructor
      · intro found
        exact ⟨0, found⟩
      · rintro ⟨place, found⟩
        rw [List.drop_nil] at found
        exact found
  | cons c rest ih =>
      rw [somewhere, Bool.or_eq_true, ih]
      constructor
      · rintro (here | ⟨place, later⟩)
        · exact ⟨0, here⟩
        · exact ⟨place + 1, later⟩
      · rintro ⟨place, found⟩
        cases place with
        | zero => exact .inl found
        | succ place => exact .inr ⟨place, found⟩

theorem afterBreak_of_not_mem {test : List Char → Bool} {line : List Char}
    (oneLine : '\n' ∉ line) : afterBreak test line = false := by
  induction line with
  | nil => rfl
  | cons c line ih =>
      rw [List.mem_cons, not_or] at oneLine
      rw [afterBreak, ih oneLine.2, beq_false_of_ne (Ne.symm oneLine.1)]
      rfl

theorem afterBreak_append_cons {test : List Char → Bool} {line : List Char}
    (oneLine : '\n' ∉ line) (rest : List Char) :
    afterBreak test (line ++ '\n' :: rest) = onSomeLine test rest := by
  induction line with
  | nil => rfl
  | cons c line ih =>
      rw [List.mem_cons, not_or] at oneLine
      rw [List.cons_append, afterBreak, ih oneLine.2, beq_false_of_ne (Ne.symm oneLine.1)]
      rfl

theorem onSomeLine_of_not_mem {test : List Char → Bool} {line : List Char}
    (oneLine : '\n' ∉ line) : onSomeLine test line = test line := by
  rw [onSomeLine, afterBreak_of_not_mem oneLine, Bool.or_false]

theorem onSomeLine_append_cons {test : List Char → Bool} {line : List Char}
    (oneLine : '\n' ∉ line) (rest : List Char) :
    onSomeLine test (line ++ '\n' :: rest) =
      (test (line ++ '\n' :: rest) || onSomeLine test rest) := by
  rw [onSomeLine, afterBreak_append_cons oneLine]

/-! ## Words -/

theorem behind?_eq_some_iff {word : String} {text rest : List Char} :
    behind? word text = some rest ↔ text = word.toList ++ rest := by
  unfold behind?
  constructor
  · intro isBehind
    split at isBehind
    · rename_i starts
      rcases List.isPrefixOf_iff_prefix.mp starts with ⟨more, rfl⟩
      rw [List.drop_left, Option.some.injEq] at isBehind
      rw [isBehind]
    · contradiction
  · rintro rfl
    rw [if_pos (List.isPrefixOf_iff_prefix.mpr (List.prefix_append _ rest)), List.drop_left]

theorem startsWith_iff {word : String} {text : List Char} :
    startsWith word text = true ↔ word.toList <+: text := by
  rw [startsWith, Option.isSome_iff_exists]
  simp only [behind?_eq_some_iff]
  constructor
  · rintro ⟨rest, rfl⟩
    exact List.prefix_append _ rest
  · rintro ⟨rest, isText⟩
    exact ⟨rest, isText.symm⟩

end CodeGloss.Language
