import CodeGloss.Text.Replace

/-!
# Two replacements in one pass

A character is replaced everywhere, and then a substring is. When what stands for the
character shares nothing with the substring, one pass from left to right does the same,
and the two kinds of matches do not meet. What a reader makes of the outcome can then be
followed step by step along the text.
-/

namespace CodeGloss.Text

/-- One pass that replaces the character `c` by `first` and the substring `old` by
`new`. -/
inductive Replaces (c : Char) (first old new : List Char) : List Char → List Char → Prop
  | done : Replaces c first old new [] []
  | single {text out : List Char} (tail : Replaces c first old new text out) :
      Replaces c first old new (c :: text) (first ++ out)
  | part {text out : List Char} (tail : Replaces c first old new text out) :
      Replaces c first old new (old ++ text) (new ++ out)
  | keep {d : Char} {text out : List Char} (differs : d ≠ c) (noMatch : ¬ old <+: d :: text)
      (tail : Replaces c first old new text out) : Replaces c first old new (d :: text) (d :: out)

section Passes

variable {c : Char} {first old new : List Char}

/-- What starts the text after the first replacement started it before, unless it has
something to do with the replacement. -/
theorem prefix_of_prefix_replaceAll {part text : List Char} (nonempty : first ≠ [])
    (apart : ∀ x ∈ first, x ∉ part) (starts : part <+: replaceAll [c] first text) :
    part <+: text := by
  induction part generalizing text with
  | nil => exact List.nil_prefix
  | cons p part ih =>
      cases text with
      | nil => simp at starts
      | cons d text =>
          rw [replaceAll_singleton, List.flatMap_cons, ← replaceAll_singleton] at starts
          by_cases isChar : d = c
          · rcases List.exists_cons_of_ne_nil nonempty with ⟨x, others, rfl⟩
            rw [if_pos isChar, List.cons_append, List.cons_prefix_cons] at starts
            exact absurd (starts.1 ▸ List.mem_cons_self) (apart x List.mem_cons_self)
          · rw [if_neg isChar, List.singleton_append, List.cons_prefix_cons] at starts
            rw [List.cons_prefix_cons]
            exact ⟨starts.1, ih (fun x member inPart =>
              apart x member (List.mem_cons_of_mem p inPart)) starts.2⟩

/-- No match starts in what shares nothing with the substring. -/
theorem replaceAll_append_of_apart {text : List Char} (nonempty : old ≠ [])
    (apart : ∀ x ∈ text, x ∉ old) (rest : List Char) :
    replaceAll old new (text ++ rest) = text ++ replaceAll old new rest := by
  induction text with
  | nil => rfl
  | cons x text ih =>
      rcases List.forall_mem_cons.mp apart with ⟨head, others⟩
      have noMatch : ¬ old <+: x :: (text ++ rest) := by
        rcases List.exists_cons_of_ne_nil nonempty with ⟨o, more, rfl⟩
        intro starts
        rw [List.cons_prefix_cons] at starts
        exact head (starts.1 ▸ List.mem_cons_self)
      rw [List.cons_append, replaceAll_cons new noMatch, ih others, List.cons_append]

theorem replaces_replaceAll (nonempty : old ≠ []) (firstNonempty : first ≠ []) (absent : c ∉ old)
    (apart : ∀ x ∈ first, x ∉ old) (text : List Char) :
    Replaces c first old new text (replaceAll old new (replaceAll [c] first text)) := by
  induction size : text.length using Nat.strongRecOn generalizing text with
  | ind size ih =>
      subst size
      by_cases isMatch : old <+: text
      · rcases isMatch with ⟨rest, rfl⟩
        have untouched : replaceAll [c] first (old ++ rest) = old ++ replaceAll [c] first rest := by
          apply replaceAll_append_of_apart (List.cons_ne_nil c [])
          intro x member isChar
          exact absent (List.mem_singleton.mp isChar ▸ member)
        have positive := List.length_pos_iff.mpr nonempty
        rw [untouched, replaceAll_append new nonempty]
        exact .part (ih _ (by rw [List.length_append]; omega) rest rfl)
      cases text with
      | nil =>
          rw [replaceAll_nil first (List.cons_ne_nil c []), replaceAll_nil new nonempty]
          exact .done
      | cons d text =>
          have tail := ih _ (Nat.lt_succ_self _) text rfl
          rw [replaceAll_singleton, List.flatMap_cons, ← replaceAll_singleton]
          by_cases isChar : d = c
          · rw [if_pos isChar, isChar, replaceAll_append_of_apart nonempty apart]
            exact .single tail
          · have noMatch : ¬ old <+: d :: replaceAll [c] first text := by
              intro starts
              apply isMatch
              cases old with
              | nil => exact List.nil_prefix
              | cons o more =>
                  rw [List.cons_prefix_cons] at starts ⊢
                  exact ⟨starts.1, prefix_of_prefix_replaceAll firstNonempty
                    (fun x member inMore => apart x member (List.mem_cons_of_mem o inMore)) starts.2⟩
            rw [if_neg isChar, List.singleton_append, replaceAll_cons new noMatch]
            exact .keep isChar isMatch tail

/-- A reader that is kept on its way by every part of the pass is led to the end of what
the pass writes. `Admits` says where it may stand before a text. -/
theorem Replaces.exists_foldlM {σ : Type} {step : σ → Char → Option σ}
    {Admits : σ → List Char → Prop}
    (admits_single : ∀ {state text}, Admits state (c :: text) →
      ∃ next ∈ first.foldlM step state, Admits next text)
    (admits_part : ∀ {state text}, Admits state (old ++ text) →
      ∃ next ∈ new.foldlM step state, Admits next text)
    (admits_keep : ∀ {state d text}, d ≠ c → ¬ old <+: d :: text → Admits state (d :: text) →
      ∃ next ∈ step state d, Admits next text)
    {text out : List Char} (replaces : Replaces c first old new text out) {state : σ}
    (admits : Admits state text) : ∃ last ∈ out.foldlM step state, Admits last [] := by
  induction replaces generalizing state with
  | done => exact ⟨state, rfl, admits⟩
  | single _ ih =>
      rcases admits_single admits with ⟨next, isNext, admitsRest⟩
      rw [List.foldlM_append, Option.mem_def.mp isNext]
      exact ih admitsRest
  | part _ ih =>
      rcases admits_part admits with ⟨next, isNext, admitsRest⟩
      rw [List.foldlM_append, Option.mem_def.mp isNext]
      exact ih admitsRest
  | keep differs noMatch _ ih =>
      rcases admits_keep differs noMatch admits with ⟨next, isNext, admitsRest⟩
      rw [List.foldlM_cons, Option.mem_def.mp isNext]
      exact ih admitsRest

end Passes

end CodeGloss.Text
