import CodeGloss.Proofs.Glossary.Substitution

/-!
# What a translation leaves standing

Some characters are fixed: those by which a source is taken apart. Two texts have
the same frame when they have the same fixed characters in the same order, and
between two of them either both have other characters or neither has. A
dictionary whose keys and translations have none of the fixed characters keeps
the frame of every text, since an entry exchanges one word for another and
leaves no gap behind.
-/

namespace CodeGloss.Glossary

open Text

variable {fixed : Char → Bool}

/-- The fixed characters agree, and words stand between them in the same places. -/
inductive SameFrame (fixed : Char → Bool) : List Char → List Char → Prop
  | nil : SameFrame fixed [] []
  | keep (c : Char) {text other : List Char} (tail : SameFrame fixed text other) :
      SameFrame fixed (c :: text) (c :: other)
  | swap {c d : Char} {word word' text other : List Char}
      (first : fixed c = false) (free : ∀ x ∈ word, fixed x = false)
      (first' : fixed d = false) (free' : ∀ x ∈ word', fixed x = false)
      (tail : SameFrame fixed text other) :
      SameFrame fixed (c :: (word ++ text)) (d :: (word' ++ other))

namespace SameFrame

theorem refl (text : List Char) : SameFrame fixed text text := by
  induction text with
  | nil => exact .nil
  | cons c text ih => exact .keep c ih

theorem symm {text other : List Char} (same : SameFrame fixed text other) :
    SameFrame fixed other text := by
  induction same with
  | nil => exact .nil
  | keep c _ ih => exact .keep c ih
  | swap first free first' free' _ ih => exact .swap first' free' first free ih

/-- The first character is kept, or a word at the start is exchanged. -/
theorem cons_cases {c : Char} {text other : List Char}
    (same : SameFrame fixed (c :: text) other) :
    (∃ rest, other = c :: rest ∧ SameFrame fixed text rest)
      ∨ ∃ word rest d word' rest', text = word ++ rest ∧ other = d :: (word' ++ rest')
        ∧ (∀ x ∈ c :: word, fixed x = false) ∧ (∀ x ∈ d :: word', fixed x = false)
        ∧ SameFrame fixed rest rest' := by
  cases same with
  | keep _ tail => exact .inl ⟨_, rfl, tail⟩
  | swap first free first' free' tail =>
      exact .inr ⟨_, _, _, _, _, rfl, rfl, List.forall_mem_cons.mpr ⟨first, free⟩,
        List.forall_mem_cons.mpr ⟨first', free'⟩, tail⟩

/-- A text put before both keeps the frames the same. -/
theorem append_left (front : List Char) {text other : List Char}
    (same : SameFrame fixed text other) : SameFrame fixed (front ++ text) (front ++ other) := by
  induction front with
  | nil => exact same
  | cons c front ih => exact .keep c ih

theorem mem {text other : List Char} (same : SameFrame fixed text other) {x : Char}
    (isFixed : fixed x = true) (member : x ∈ text) : x ∈ other := by
  induction same with
  | nil => exact member
  | keep c _ ih =>
      rcases List.mem_cons.mp member with rfl | later
      · exact List.mem_cons_self
      · exact List.mem_cons_of_mem c (ih later)
  | @swap c d word word' text other first free _ _ _ ih =>
      rcases List.mem_cons.mp member with rfl | later
      · rw [first] at isFixed
        contradiction
      · rcases List.mem_append.mp later with inWord | inText
        · rw [free x inWord] at isFixed
          contradiction
        · exact List.mem_cons_of_mem d (List.mem_append_right word' (ih inText))

theorem mem_iff {text other : List Char} (same : SameFrame fixed text other) {x : Char}
    (isFixed : fixed x = true) : x ∈ text ↔ x ∈ other :=
  ⟨same.mem isFixed, same.symm.mem isFixed⟩

theorem eq_nil_iff {text other : List Char} (same : SameFrame fixed text other) :
    text = [] ↔ other = [] := by
  cases same <;> simp

/-- Fixed characters at the start stay at the start. -/
theorem starts_of_fixed {part text other : List Char} (same : SameFrame fixed text other)
    (isFixed : ∀ c ∈ part, fixed c = true) (starts : part <+: text) : part <+: other := by
  induction part generalizing text other with
  | nil => exact List.nil_prefix
  | cons p part ih =>
      rcases List.forall_mem_cons.mp isFixed with ⟨first, rest⟩
      rcases starts with ⟨behind, rfl⟩
      rcases same.cons_cases with ⟨other, rfl, sameRest⟩ | ⟨_, _, _, _, _, _, _, free, _, _⟩
      · rw [List.cons_prefix_cons]
        exact ⟨rfl, ih sameRest rest (List.prefix_append part behind)⟩
      · rw [free p List.mem_cons_self] at first
        contradiction

/-- A fixed character at the start stays at the start. -/
theorem head?_of_fixed {text other : List Char} (same : SameFrame fixed text other) {c : Char}
    (isFixed : fixed c = true) (first : text.head? = some c) : other.head? = some c := by
  rcases List.head?_eq_some_iff.mp first with ⟨rest, rfl⟩
  have starts := same.starts_of_fixed (List.forall_mem_singleton.mpr isFixed)
    (List.prefix_append [c] rest)
  rcases starts with ⟨behind, rfl⟩
  rfl

/-- Fixed characters behind a word do not start within the word. -/
theorem contains_of_append_free {p : Char} {part word text : List Char} (isFixed : fixed p = true)
    (free : ∀ c ∈ word, fixed c = false) (inside : p :: part <:+: word ++ text) :
    p :: part <:+: text := by
  induction word with
  | nil => exact inside
  | cons c word ih =>
      rcases List.forall_mem_cons.mp free with ⟨first, rest⟩
      rw [List.cons_append] at inside
      rcases List.infix_cons_iff.mp inside with starts | later
      · rw [List.cons_prefix_cons] at starts
        rw [starts.1, first] at isFixed
        contradiction
      · exact ih rest later

/-- Fixed characters that stand next to each other stay so. -/
theorem contains_of_fixed {part text other : List Char} (same : SameFrame fixed text other)
    (isFixed : ∀ c ∈ part, fixed c = true) (inside : part <:+: text) : part <:+: other := by
  induction same with
  | nil => exact inside
  | @keep c text other tail ih =>
      rcases List.infix_cons_iff.mp inside with starts | later
      · exact ((SameFrame.keep c tail).starts_of_fixed isFixed starts).isInfix
      · exact List.infix_cons (ih later)
  | @swap c d word word' text other first free _ _ _ ih =>
      cases part with
      | nil => exact List.nil_infix
      | cons p part =>
          have wordFree : ∀ x ∈ c :: word, fixed x = false := List.forall_mem_cons.mpr ⟨first, free⟩
          have behind := contains_of_append_free (isFixed p List.mem_cons_self) wordFree inside
          exact (ih behind).trans (List.suffix_append (d :: word') other).isInfix

/-- A fixed character at the end stays at the end. -/
theorem getLast?_of_fixed {text other : List Char} (same : SameFrame fixed text other) {c : Char}
    (isFixed : fixed c = true) (last : text.getLast? = some c) : other.getLast? = some c := by
  induction same with
  | nil => exact last
  | @keep x text other tail ih =>
      cases text with
      | nil =>
          rw [tail.eq_nil_iff.mp rfl]
          exact last
      | cons y text =>
          rw [List.getLast?_cons_cons] at last
          rw [List.getLast?_cons, ih last]
          rfl
  | @swap x d word word' text other first free _ _ tail ih =>
      rw [← List.cons_append, List.getLast?_append] at last ⊢
      cases isLast : text.getLast? with
      | some y =>
          rw [isLast, Option.some_or] at last
          rw [ih (isLast.trans last), Option.some_or]
      | none =>
          rw [isLast, Option.none_or] at last
          have wordFree : ∀ y ∈ x :: word, fixed y = false := List.forall_mem_cons.mpr ⟨first, free⟩
          rw [wordFree c (List.mem_of_getLast? last)] at isFixed
          contradiction

/-- A text of fixed characters alone has no other text of its frame. -/
theorem eq_of_fixed {text other : List Char} (same : SameFrame fixed text other)
    (isFixed : ∀ c ∈ text, fixed c = true) : text = other := by
  induction same with
  | nil => rfl
  | keep c _ ih => rw [ih (List.forall_mem_cons.mp isFixed).2]
  | @swap c _ _ _ _ _ first _ _ _ _ _ =>
      rw [isFixed c List.mem_cons_self] at first
      contradiction

end SameFrame

/-! ## Texts in another case -/

/-- A letter keeps the frame when a mark stays and any other letter turns into letters. -/
theorem SameFrame.letter {c : Char} {image text other : List Char}
    (ofMark : isMark c = true → image = [c]) (nonempty : image ≠ [])
    (noNewMark : ∀ x ∈ image, isMark x = true → x = c) (tail : SameFrame isMark text other) :
    SameFrame isMark (c :: text) (image ++ other) := by
  cases mark : isMark c with
  | true =>
      rw [ofMark mark]
      exact .keep c tail
  | false =>
      have free : ∀ x ∈ image, isMark x = false := by
        intro x member
        rw [Bool.eq_false_iff]
        intro xMark
        rw [noNewMark x member xMark, mark] at xMark
        contradiction
      rcases List.exists_cons_of_ne_nil nonempty with ⟨d, word, rfl⟩
      rcases List.forall_mem_cons.mp free with ⟨first, rest⟩
      have noWord : ∀ x ∈ ([] : List Char), isMark x = false := by simp
      exact .swap mark noWord first rest tail

theorem sameFrame_upper (text : List Char) : SameFrame isMark text (upper text) := by
  induction text with
  | nil => exact .nil
  | cons c text ih =>
      exact .letter upperLetter_of_isMark (upperLetter_ne_nil c)
        (fun _ member mark => eq_of_mem_upperLetter member mark) ih

theorem sameFrame_lowerFrom (before text : List Char) :
    SameFrame isMark text (lowerFrom before text) := by
  induction text generalizing before with
  | nil => exact .nil
  | cons c text ih =>
      exact .letter (fun mark => lowerAt_of_isMark mark before text) (lowerAt_ne_nil before c text)
        (fun _ member mark => eq_of_mem_lowerAt member mark) (ih _)

theorem sameFrame_capitalize (text : List Char) : SameFrame isMark text (capitalize text) := by
  cases text with
  | nil => exact .nil
  | cons c text =>
      exact .letter upperLetter_of_isMark (upperLetter_ne_nil c)
        (fun _ member mark => eq_of_mem_upperLetter member mark) (.refl text)

/-- In whatever case a translation is inserted, its marks stand as they do in it. -/
theorem sameFrame_matchCase (translation sample : List Char) :
    SameFrame isMark translation (matchCase translation sample) := by
  rcases matchCase_cases translation sample with same | same | same | same <;> rw [same]
  · exact .refl translation
  · exact sameFrame_upper translation
  · exact sameFrame_lowerFrom [] translation
  · exact sameFrame_capitalize translation

/-! ## Dictionaries that avoid the fixed characters -/

/-- Neither key nor translation is empty or has a fixed character. -/
structure Entry.Avoids (fixed : Char → Bool) (entry : Entry) : Prop where
  key_ne_nil : entry.key ≠ []
  translation_ne_nil : entry.translation ≠ []
  key_free : ∀ c ∈ entry.key, fixed c = false
  translation_free : ∀ c ∈ entry.translation, fixed c = false

/-- If a key has none of the fixed characters, no match covers one. -/
theorem Matcher.free_of_matchesAt {m : Matcher} {before : Option Char} {text : List Char}
    (marks : ∀ c, fixed c = true → isMark c = true) (keyFree : ∀ c ∈ m.key, fixed c = false)
    (isMatch : m.matchesAt before text = true) :
    ∀ c ∈ text.take m.key.length, fixed c = false := by
  rcases exists_matched isMatch with ⟨matched, rest, rfl, length⟩
  have starts := startsWithLetters_of_matchesAt isMatch
  rw [startsWithLetters_append _ length] at starts
  rw [← length, List.take_left]
  intro c member
  cases isFixed : fixed c with
  | false => rfl
  | true =>
      have inKey := mem_key_of_mem_matched starts length member (marks c isFixed)
      rw [keyFree c inKey] at isFixed
      contradiction

theorem Matcher.Substitutes.sameFrame {m : Matcher} {replace : List Char → List Char}
    {before : Option Char} {text out : List Char} (marks : ∀ c, fixed c = true → isMark c = true)
    (nonempty : m.key ≠ []) (keyFree : ∀ c ∈ m.key, fixed c = false)
    (inserts : ∀ matched, replace matched ≠ [] ∧ ∀ c ∈ replace matched, fixed c = false)
    (run : m.Substitutes replace before text out) : SameFrame fixed text out := by
  induction run with
  | done before => exact .nil
  | keep _ _ ih => exact .keep _ ih
  | @hit before matched rest out length isMatch _ ih =>
      have matchedFree := free_of_matchesAt marks keyFree isMatch
      rw [← length, List.take_left] at matchedFree
      rcases inserts matched with ⟨inserted, insertedFree⟩
      cases matched with
      | nil => exact absurd (List.length_eq_zero_iff.mp length.symm) nonempty
      | cons c word =>
          cases isInserted : replace (c :: word) with
          | nil => exact absurd isInserted inserted
          | cons d word' =>
              rw [isInserted] at insertedFree
              exact .swap (matchedFree c List.mem_cons_self)
                (fun x member => matchedFree x (List.mem_cons_of_mem c member))
                (insertedFree d List.mem_cons_self)
                (fun x member => insertedFree x (List.mem_cons_of_mem d member)) ih

namespace Entry.Avoids

variable {entry : Entry}

/-- What the entry inserts has no fixed character either. -/
theorem matchCase_free (avoids : entry.Avoids fixed) (marks : ∀ c, fixed c = true → isMark c = true)
    (sample : List Char) : ∀ c ∈ matchCase entry.translation sample, fixed c = false := by
  intro c member
  cases isFixed : fixed c with
  | false => rfl
  | true =>
      have inTranslation := mem_of_mem_matchCase member (marks c isFixed)
      rw [avoids.translation_free c inTranslation] at isFixed
      contradiction

theorem sameFrame_apply (avoids : entry.Avoids fixed)
    (marks : ∀ c, fixed c = true → isMark c = true) (text : List Char) :
    SameFrame fixed text (entry.apply id text) := by
  have run := (Matcher.substitutes_iff (m := entry.matcher) avoids.key_ne_nil).mpr
    (Eq.refl (entry.apply id text))
  exact run.sameFrame marks avoids.key_ne_nil avoids.key_free fun sample =>
    ⟨matchCase_ne_nil sample avoids.translation_ne_nil, avoids.matchCase_free marks sample⟩

end Entry.Avoids

/-! ## Dictionaries whose keys avoid the fixed characters -/

section Keys

variable {entries : List Entry}

/-- A substitution takes no fixed character away, since no match covers one. -/
theorem Matcher.countP_le_countP_substituteFrom {m : Matcher} {replace : List Char → List Char}
    {before : Option Char} {covered : Nat} {text : List Char}
    (marks : ∀ c, fixed c = true → isMark c = true) (keyFree : ∀ c ∈ m.key, fixed c = false)
    (coveredFree : ∀ c ∈ text.take covered, fixed c = false) :
    text.countP fixed ≤ (m.substituteFrom replace before covered text).countP fixed := by
  -- The first characters that the last match covers are not written again.
  induction text generalizing before covered with
  | nil => simp
  | cons c rest ih =>
      cases covered with
      | succ covered =>
          rw [List.take_succ_cons, List.forall_mem_cons] at coveredFree
          rw [substituteFrom, List.countP_cons_of_neg (by simp [coveredFree.1])]
          exact ih coveredFree.2
      | zero =>
          rw [substituteFrom]
          split
          · rename_i isMatch
            have matchedFree := free_of_matchesAt marks keyFree isMatch
            cases length : m.key.length with
            | zero =>
                have later : rest.countP fixed ≤
                    (m.substituteFrom replace (some c) 0 rest).countP fixed := ih (by simp)
                rw [if_pos (by simpa using length), List.countP_append, List.countP_append,
                  List.countP_cons, List.countP_singleton, Nat.zero_sub]
                omega
            | succ more =>
                rw [length, List.take_succ_cons, List.forall_mem_cons] at matchedFree
                have later : rest.countP fixed ≤
                    (m.substituteFrom replace (some c) more rest).countP fixed :=
                  ih matchedFree.2
                rw [List.countP_cons_of_neg (by simp [matchedFree.1]), List.countP_append]
                exact Nat.le_add_left_of_le later
          · have later : rest.countP fixed ≤
                (m.substituteFrom replace (some c) 0 rest).countP fixed := ih (by simp)
            rw [List.countP_cons, List.countP_cons]
            exact Nat.add_le_add_right later _

/-- A translation has at least as many fixed characters as the text, if no key has one. -/
theorem countP_le_countP_translateEscaped (marks : ∀ c, fixed c = true → isMark c = true)
    (keys : ∀ entry ∈ entries, ∀ c ∈ entry.key, fixed c = false)
    (escape : List Char → List Char) (text : List Char) :
    text.countP fixed ≤ (translateEscaped entries escape text).countP fixed := by
  apply translateEscaped_induction (fun out => text.countP fixed ≤ out.countP fixed) _ Nat.le.refl
  intro entry member out more
  exact Nat.le_trans more (Matcher.countP_le_countP_substituteFrom (m := entry.matcher) marks
    (keys entry member) (by simp))

end Keys

end CodeGloss.Glossary
