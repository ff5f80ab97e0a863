import CodeGloss.Proofs.Glossary.Frame
import CodeGloss.Scan.Span

/-!
# Contents of literals

The content of a literal is a text behind which its delimiter stands for the
first time: read with a backslash taking the next character along, unless the
literal is raw, no delimiter starts before. Two texts of one frame are contents
of the same literals, if quotes and backslashes are fixed.
-/

namespace CodeGloss.Scan

open Glossary Text

/-- One quote, or three. -/
def delimiterOf (quote : Char) (triple : Bool) : List Char :=
  List.replicate (if triple then 3 else 1) quote

theorem delimiterOf_eq_cons (quote : Char) (triple : Bool) :
    ∃ rest, delimiterOf quote triple = quote :: rest := by
  cases triple <;> exact ⟨_, rfl⟩

theorem delimiterOf_ne_nil (quote : Char) (triple : Bool) : delimiterOf quote triple ≠ [] := by
  cases triple <;> exact List.cons_ne_nil _ _

theorem Literal.delimiter_eq (literal : Literal) :
    literal.delimiter = delimiterOf literal.quote literal.triple := by
  unfold delimiter delimiterOf
  cases literal.triple <;> rfl

/-- A text behind which the delimiter stands for the first time. -/
inductive Content (delimiter : List Char) (raw : Bool) : List Char → Prop
  | nil : Content delimiter raw []
  | escaped (c : Char) {content : List Char} (notRaw : raw = false)
      (tail : Content delimiter raw content) : Content delimiter raw ('\\' :: c :: content)
  | plain {c : Char} {content : List Char} (bare : c = '\\' → raw = true)
      (stillOpen : ¬ delimiter <+: c :: (content ++ delimiter))
      (tail : Content delimiter raw content) : Content delimiter raw (c :: content)

section Rules

variable {delimiter content : List Char} {raw : Bool} {c : Char}

theorem content_backslash_iff :
    Content delimiter false ('\\' :: content) ↔
      ∃ c rest, content = c :: rest ∧ Content delimiter false rest := by
  constructor
  · intro isContent
    cases isContent with
    | escaped c _ tail => exact ⟨c, _, rfl, tail⟩
    | plain bare => exact absurd (bare rfl) Bool.false_ne_true
  · rintro ⟨c, rest, rfl, tail⟩
    exact .escaped c rfl tail

theorem content_cons_iff (bare : c = '\\' → raw = true) :
    Content delimiter raw (c :: content) ↔
      ¬ delimiter <+: c :: (content ++ delimiter) ∧ Content delimiter raw content := by
  constructor
  · intro isContent
    cases isContent with
    | escaped _ notRaw => exact absurd (notRaw.symm.trans (bare rfl)) Bool.false_ne_true
    | plain _ stillOpen tail => exact ⟨stillOpen, tail⟩
  · rintro ⟨stillOpen, tail⟩
    exact .plain bare stillOpen tail

/-- In a raw literal between single delimiters the content goes up to the first quote. -/
theorem content_raw_iff {quote : Char} :
    Content (delimiterOf quote false) true content ↔ quote ∉ content := by
  induction content with
  | nil => simp [Content.nil]
  | cons c content ih =>
      have delimiter : delimiterOf quote false = [quote] := rfl
      rw [content_cons_iff fun _ => rfl, ih, delimiter, List.cons_prefix_cons, List.mem_cons,
        not_or]
      simp

end Rules

section Reading

variable {quote : Char} {triple raw : Bool} {content : List Char}

/-- Reading on behind an escape needs no case for a text that ends there. -/
theorem contentLength?_cons (delimiter : List Char) (raw : Bool) (c : Char) (rest : List Char) :
    contentLength? delimiter raw (c :: rest) =
      if c = '\\' ∧ raw = false then (contentLength? delimiter raw rest.tail).map (· + 2)
      else if delimiter.isPrefixOf (c :: rest) then some 0
      else (contentLength? delimiter raw rest).map (· + 1) := by
  cases rest <;> rfl

/-- Behind a content and its delimiter the reading stops with the content. -/
theorem contentLength?_of_content (noBackslash : quote ≠ '\\')
    (isContent : Content (delimiterOf quote triple) raw content) (rest : List Char) :
    contentLength? (delimiterOf quote triple) raw (content ++ (delimiterOf quote triple ++ rest)) =
      some content.length := by
  induction isContent with
  | nil =>
      have closes : (delimiterOf quote triple).isPrefixOf (delimiterOf quote triple ++ rest) =
          true := by
        rw [List.isPrefixOf_iff_prefix]
        exact List.prefix_append _ _
      rcases delimiterOf_eq_cons quote triple with ⟨more, isDelimiter⟩
      rw [isDelimiter, List.cons_append, ← isDelimiter] at closes
      rw [List.nil_append, isDelimiter, List.cons_append, ← isDelimiter, contentLength?_cons,
        if_neg (fun both => noBackslash both.1), if_pos closes]
      rfl
  | escaped c notRaw _ ih =>
      rw [List.cons_append, List.cons_append, contentLength?_cons, if_pos ⟨rfl, notRaw⟩,
        List.tail_cons, ih]
      rfl
  | @plain c content bare stillOpen _ ih =>
      have notYet : ¬ (delimiterOf quote triple).isPrefixOf
          (c :: (content ++ (delimiterOf quote triple ++ rest))) = true := by
        rw [List.isPrefixOf_iff_prefix]
        intro starts
        apply stillOpen
        rw [← List.append_assoc, ← List.cons_append] at starts
        exact List.prefix_of_prefix_length_le starts (List.prefix_append _ rest)
          (by simp only [List.length_cons, List.length_append]; omega)
      have noEscape : ¬ (c = '\\' ∧ raw = false) := by
        rintro ⟨backslash, notRaw⟩
        rw [bare backslash] at notRaw
        contradiction
      rw [List.cons_append, contentLength?_cons, if_neg noEscape, if_neg notYet, ih]
      rfl

/-- Where the reading stops, it has read a content and stands before the delimiter. -/
theorem exists_content_of_contentLength? {delimiter text : List Char} {length : Nat}
    (stops : contentLength? delimiter raw text = some length) :
    ∃ content rest, text = content ++ (delimiter ++ rest) ∧ content.length = length
      ∧ Content delimiter raw content := by
  induction size : text.length using Nat.strongRecOn generalizing text length with
  | ind size ih =>
      subst size
      cases text with
      | nil => contradiction
      | cons c rest =>
          rw [contentLength?_cons] at stops
          split at stops
          · rename_i isEscape
            rcases Option.map_eq_some_iff.mp stops with ⟨inner, innerStops, rfl⟩
            cases rest with
            | nil => contradiction
            | cons skipped rest =>
                rcases ih _ (by simp only [List.length_cons, List.tail_cons]; omega) innerStops rfl
                  with ⟨content, after, isText, rfl, isContent⟩
                rw [List.tail_cons] at isText
                rcases isEscape with ⟨rfl, notRaw⟩
                exact ⟨'\\' :: skipped :: content, after, by rw [isText]; rfl, rfl,
                  .escaped skipped notRaw isContent⟩
          · rename_i noEscape
            split at stops
            · rename_i closes
              rw [List.isPrefixOf_iff_prefix] at closes
              rcases closes with ⟨after, isText⟩
              exact ⟨[], after, isText.symm, Option.some.inj stops, .nil⟩
            · rename_i notYet
              rcases Option.map_eq_some_iff.mp stops with ⟨inner, innerStops, rfl⟩
              rcases ih _ (Nat.lt_succ_self _) innerStops rfl
                with ⟨content, after, rfl, rfl, isContent⟩
              refine ⟨c :: content, after, rfl, rfl, .plain ?_ ?_ isContent⟩
              · intro backslash
                cases isRaw : raw with
                | true => rfl
                | false => exact absurd ⟨backslash, isRaw⟩ noEscape
              · intro starts
                apply notYet
                rw [List.isPrefixOf_iff_prefix]
                refine starts.trans ?_
                rw [← List.append_assoc, ← List.cons_append]
                exact List.prefix_append _ _

end Reading

/-! ## Contents and frames -/

section Frames

variable {fixed : Char → Bool} {quote : Char} {triple raw : Bool}

/-- A word before a content, without quotes and backslashes, belongs to it. -/
theorem content_append_iff {word content : List Char}
    (free : ∀ c ∈ word, c ≠ '\\' ∧ c ≠ quote) :
    Content (delimiterOf quote triple) raw (word ++ content) ↔
      Content (delimiterOf quote triple) raw content := by
  induction word with
  | nil => rfl
  | cons c word ih =>
      rcases free c List.mem_cons_self with ⟨noBackslash, noQuote⟩
      have bare : c = '\\' → raw = true := fun backslash => absurd backslash noBackslash
      have stillOpen : ¬ delimiterOf quote triple <+:
          c :: (word ++ content ++ delimiterOf quote triple) := by
        rcases delimiterOf_eq_cons quote triple with ⟨more, isDelimiter⟩
        rw [isDelimiter, List.cons_prefix_cons]
        exact fun both => noQuote both.1.symm
      rw [List.cons_append, content_cons_iff bare,
        ih fun x member => free x (List.mem_cons_of_mem c member)]
      exact ⟨And.right, fun isContent => ⟨stillOpen, isContent⟩⟩

theorem replicate_prefix_of_sameFrame {text other : List Char} {count total : Nat}
    (same : SameFrame fixed text other) (quoteFixed : fixed quote = true)
    (starts : List.replicate count quote <+: text ++ List.replicate total quote) :
    List.replicate count quote <+: other ++ List.replicate total quote := by
  induction same generalizing count with
  | nil => exact starts
  | keep c _ ih =>
      cases count with
      | zero => exact List.nil_prefix
      | succ count =>
          rw [List.replicate_succ, List.cons_append, List.cons_prefix_cons] at starts ⊢
          exact ⟨starts.1, ih starts.2⟩
  | swap first _ _ _ _ _ =>
      cases count with
      | zero => exact List.nil_prefix
      | succ count =>
          rw [List.replicate_succ, List.cons_append, List.cons_prefix_cons] at starts
          rw [← starts.1, quoteFixed] at first
          contradiction

/-- A word may be exchanged for another before the rest of a content. -/
theorem Content.exchange {word word' content : List Char}
    (isContent : Content (delimiterOf quote triple) raw (word ++ content))
    (quoteFixed : fixed quote = true) (backslashFixed : fixed '\\' = true)
    (free : ∀ c ∈ word, fixed c = false) (free' : ∀ c ∈ word', fixed c = false) :
    Content (delimiterOf quote triple) raw (word' ++ content) := by
  have inert : ∀ {c : Char}, fixed c = false → c ≠ '\\' ∧ c ≠ quote := by
    intro c isFree
    constructor
    · rintro rfl
      rw [backslashFixed] at isFree
      contradiction
    · rintro rfl
      rw [quoteFixed] at isFree
      contradiction
  rw [content_append_iff fun c member => inert (free' c member)]
  exact (content_append_iff fun c member => inert (free c member)).mp isContent

/-- A text with the frame of a content is a content. -/
theorem Content.of_sameFrame (quoteFixed : fixed quote = true)
    (backslashFixed : fixed '\\' = true) {content other : List Char}
    (isContent : Content (delimiterOf quote triple) raw content)
    (same : SameFrame fixed content other) : Content (delimiterOf quote triple) raw other := by
  -- Where a word is exchanged, the induction hypothesis is used with the word kept.
  induction isContent generalizing other with
  | nil =>
      rw [same.eq_nil_iff.mp rfl]
      exact .nil
  | @escaped c content notRaw _ ih =>
      rcases same.cons_cases with ⟨next, rfl, sameNext⟩ | ⟨_, _, _, _, _, _, _, free, _, _⟩
      · rcases sameNext.cons_cases with
          ⟨rest', rfl, sameRest⟩ | ⟨word, rest, d, word', rest', rfl, rfl, free, free', sameRest⟩
        · exact .escaped c notRaw (ih sameRest)
        · have kept := ih (sameRest.append_left word)
          exact .escaped d notRaw (kept.exchange quoteFixed backslashFixed
            (List.forall_mem_cons.mp free).2 (List.forall_mem_cons.mp free').2)
      · rw [free '\\' List.mem_cons_self] at backslashFixed
        contradiction
  | @plain c content bare stillOpen tail ih =>
      rcases same.cons_cases with
        ⟨rest', rfl, sameRest⟩ | ⟨word, rest, d, word', rest', rfl, rfl, free, free', sameRest⟩
      · refine .plain bare ?_ (ih sameRest)
        intro starts
        exact stillOpen (replicate_prefix_of_sameFrame same.symm quoteFixed starts)
      · have kept := ih (sameRest.append_left word)
        rw [← List.cons_append]
        exact kept.exchange quoteFixed backslashFixed (List.forall_mem_cons.mp free).2 free'

end Frames

end CodeGloss.Scan
