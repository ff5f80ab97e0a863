import CodeGloss.Proofs.Language.Suffixes
import CodeGloss.Proofs.Text.Lines

/-!
# The forms that detection knows

Detection looks at suffixes of the stripped snippet, and blanks are skipped over line breaks.
What it accepts can be said of places and of lines. A snippet is markup exactly if an opening
tag and the start of a closing tag stand somewhere in it. It has a definition exactly if one of
its lines starts with one, blanks aside, and with one it is Python unless it is markup.
-/

namespace CodeGloss.Language

open Text

/-! ## Tags -/

/-- A word character stands directly behind an opening bracket, and a closing bracket somewhere
behind the opening one. -/
def HasOpeningTag (text : List Char) : Prop :=
  ∃ place c later, text[place]? = some '<' ∧ text[place + 1]? = some c ∧ isWord c = true
    ∧ place < later ∧ text[later]? = some '>'

/-- A slash stands directly behind an opening bracket, and a word character directly behind the
slash. -/
def HasClosingTag (text : List Char) : Prop :=
  ∃ place c, text[place]? = some '<' ∧ text[place + 1]? = some '/' ∧ text[place + 2]? = some c
    ∧ isWord c = true

theorem isOpeningTag_iff {text : List Char} :
    isOpeningTag text = true ↔
      ∃ c later, text[0]? = some '<' ∧ text[1]? = some c ∧ isWord c = true ∧ 0 < later
        ∧ text[later]? = some '>' := by
  match text with
  | [] => simp [isOpeningTag]
  | [first] => simp [isOpeningTag]
  | first :: c :: rest =>
      constructor
      · intro opens
        unfold isOpeningTag at opens
        split at opens
        · rename_i isText
          cases isText
          rw [Bool.and_eq_true, List.contains_iff_mem] at opens
          rcases List.mem_iff_getElem?.mp opens.2 with ⟨index, closes⟩
          exact ⟨c, index + 2, rfl, rfl, opens.1, Nat.succ_pos _, closes⟩
        · contradiction
      · rintro ⟨_, later, isOpen, isChar, isLetter, behind, closes⟩
        cases isOpen
        cases isChar
        rw [isOpeningTag, isLetter, Bool.true_and, List.contains_iff_mem]
        match later with
        | 0 => contradiction
        | 1 =>
            cases closes
            exact absurd isLetter (by decide)
        | index + 2 => exact List.mem_of_getElem? closes

theorem isClosingTag_iff {text : List Char} :
    isClosingTag text = true ↔
      ∃ c, text[0]? = some '<' ∧ text[1]? = some '/' ∧ text[2]? = some c ∧ isWord c = true := by
  rw [isClosingTag, Option.any_eq_true]
  constructor
  · rintro ⟨rest, isBehind, isLetter⟩
    rw [behind?_eq_some_iff] at isBehind
    rw [startsWithWordChar, Option.any_eq_true] at isLetter
    rcases isLetter with ⟨c, isChar, isLetter⟩
    rw [List.head?_eq_getElem?] at isChar
    rw [isBehind]
    exact ⟨c, rfl, rfl, isChar, isLetter⟩
  · rintro ⟨c, isOpen, isSlash, isChar, isLetter⟩
    match text with
    | [] => contradiction
    | [_] => contradiction
    | [_, _] => contradiction
    | _ :: _ :: _ :: rest =>
        cases isOpen
        cases isSlash
        cases isChar
        exact ⟨c :: rest, behind?_eq_some_iff.mpr rfl, isLetter⟩

theorem somewhere_isOpeningTag_iff {text : List Char} :
    somewhere isOpeningTag text = true ↔ HasOpeningTag text := by
  simp only [somewhere_iff, isOpeningTag_iff, List.getElem?_drop]
  constructor
  · rintro ⟨place, c, later, isOpen, isChar, isLetter, behind, closes⟩
    exact ⟨place, c, place + later, isOpen, isChar, isLetter, Nat.lt_add_of_pos_right behind,
      closes⟩
  · rintro ⟨place, c, later, isOpen, isChar, isLetter, behind, closes⟩
    refine ⟨place, c, later - place, isOpen, isChar, isLetter, Nat.sub_pos_of_lt behind, ?_⟩
    rw [Nat.add_sub_cancel' (Nat.le_of_lt behind)]
    exact closes

theorem somewhere_isClosingTag_iff {text : List Char} :
    somewhere isClosingTag text = true ↔ HasClosingTag text := by
  simp only [somewhere_iff, isClosingTag_iff, List.getElem?_drop]
  rfl

theorem isMarkup_iff {text : List Char} :
    isMarkup text = true ↔ HasOpeningTag text ∧ HasClosingTag text := by
  rw [isMarkup, Bool.and_eq_true, somewhere_isOpeningTag_iff, somewhere_isClosingTag_iff]

/-! ## Definitions -/

/-- The line starts with a definition, blanks aside. -/
def StartsDefinition (line : List Char) : Prop :=
  "def ".toList <+: stripLeft line ∨ "class ".toList <+: stripLeft line

theorem isDefinition_iff {line : List Char} :
    isDefinition line = true ↔ StartsDefinition line := by
  rw [isDefinition, Bool.or_eq_true, startsWith_iff, startsWith_iff, StartsDefinition]

theorem not_startsDefinition_of_blank {line : List Char} (blank : isBlankText line = true) :
    ¬ StartsDefinition line := by
  rw [StartsDefinition, (stripLeft_eq_nil_iff line).mpr blank]
  decide

/-- A definition stands on the first line, or that line is blank and the definition comes
later. -/
theorem startsDefinition_append_cons {line rest : List Char} :
    StartsDefinition (line ++ '\n' :: rest) ↔
      StartsDefinition line ∨ isBlankText line = true ∧ StartsDefinition rest := by
  by_cases blank : isBlankText line = true
  · have skips : stripLeft ('\n' :: rest) = stripLeft rest := rfl
    rw [or_iff_right (not_startsDefinition_of_blank blank), and_iff_right blank, StartsDefinition,
      stripLeft_append_of_blank blank, skips, StartsDefinition]
  · have here : ¬ (isBlankText line = true ∧ StartsDefinition rest) := fun both => blank both.1
    rw [or_iff_left here, StartsDefinition, stripLeft_append_of_not_blank blank,
      prefix_append_cons_iff (by decide), prefix_append_cons_iff (by decide), StartsDefinition]

/-- Some line of the text starts with a definition exactly if detection finds one. -/
theorem onSomeLine_isDefinition_iff (text : List Char) :
    onSomeLine isDefinition text = true ↔
      ∃ line ∈ splitOn ['\n'] text, StartsDefinition line := by
  induction text using lines_induction with
  | last line oneLine =>
      rw [onSomeLine_of_not_mem oneLine, splitOn_of_not_mem oneLine, isDefinition_iff]
      simp only [List.mem_singleton, exists_eq_left]
  | line line rest oneLine ih =>
      rw [onSomeLine_append_cons oneLine, Bool.or_eq_true, ih, isDefinition_iff,
        startsDefinition_append_cons, splitOn_append_cons oneLine]
      simp only [List.mem_cons, exists_eq_or_imp]
      constructor
      · rintro ((first | ⟨_, later⟩) | later)
        · exact .inl first
        · right
          rw [← isDefinition_iff] at later
          rw [← ih, onSomeLine, later, Bool.true_or]
        · exact .inr later
      · rintro (first | later)
        · exact .inl (.inl first)
        · exact .inr later

/-! ## Detection -/

/-- The rules in their order, the first one that applies. -/
theorem detect_eq (source : List Char) :
    detect source =
      if isMarkup (strip source) then jsx
      else if looksIndented (strip source) then python
      else if (strip source).isEmpty then plain
      else if looksTyped (strip source) then ts
      else js := by
  rw [detect]
  cases strip source with
  | nil => rfl
  | cons c rest => rfl

theorem detect_eq_jsx_iff (source : List Char) :
    detect source = jsx ↔ isMarkup (strip source) = true := by
  rw [detect_eq]
  by_cases markup : isMarkup (strip source) = true
  · rw [if_pos markup]
    exact iff_of_true rfl markup
  · rw [if_neg markup]
    apply iff_of_false _ markup
    cases looksIndented (strip source) <;> cases (strip source).isEmpty
      <;> cases looksTyped (strip source) <;> decide

/-- A snippet is taken for markup exactly if it has an opening tag and the start of a closing
one. One with a definition at the start of some line is taken for Python unless it is markup, and
one that is taken for script has no such line. -/
theorem detect_tellsForms (source : List Char) :
    (detect source = jsx ↔ HasOpeningTag (strip source) ∧ HasClosingTag (strip source))
      ∧ (detect source ≠ jsx →
        (∃ line ∈ splitOn ['\n'] (strip source), StartsDefinition line) →
        detect source = python)
      ∧ (detect source = ts ∨ detect source = js →
        ¬ ∃ line ∈ splitOn ['\n'] (strip source), StartsDefinition line) := by
  have defined : detect source ≠ jsx →
      (∃ line ∈ splitOn ['\n'] (strip source), StartsDefinition line) →
        detect source = python := by
    intro notMarkup hasLine
    rw [ne_eq, detect_eq_jsx_iff] at notMarkup
    rw [← onSomeLine_isDefinition_iff] at hasLine
    rw [detect_eq, if_neg notMarkup, if_pos]
    rw [looksIndented, hasLine]
    rfl
  constructor
  · rw [detect_eq_jsx_iff, isMarkup_iff]
  · constructor
    · exact defined
    · rintro (isScript | isScript) hasLine
      · have isPython := defined (by rw [isScript]; decide) hasLine
        rw [isScript] at isPython
        contradiction
      · have isPython := defined (by rw [isScript]; decide) hasLine
        rw [isScript] at isPython
        contradiction

/-- Blanks before a definition may reach over an empty line, and a comparison is no tag. A
definition behind other code on its line is none. -/
theorem detect_tellsForms_lines :
    let indented := "x = a <b\n \t\n  class A:".toList
    let script := "let x: string; def y".toList
    detect indented ≠ jsx
      ∧ (∃ line ∈ splitOn ['\n'] (strip indented), StartsDefinition line)
      ∧ detect indented = python
      ∧ detect script = ts
      ∧ ¬ ∃ line ∈ splitOn ['\n'] (strip script), StartsDefinition line := by
  intro indented script
  have notMarkup : detect indented ≠ jsx := by decide +kernel
  have hasLine : ∃ line ∈ splitOn ['\n'] (strip indented), StartsDefinition line :=
    (onSomeLine_isDefinition_iff _).mp (by decide +kernel)
  have isScript : detect script = ts := by decide +kernel
  exact ⟨notMarkup, hasLine, (detect_tellsForms indented).2.1 notMarkup hasLine, isScript,
    (detect_tellsForms script).2.2 (.inl isScript)⟩

end CodeGloss.Language
