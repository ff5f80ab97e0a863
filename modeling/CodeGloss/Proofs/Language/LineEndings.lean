import CodeGloss.Proofs.Language.Forms
import CodeGloss.Proofs.Text.Returns

/-!
# Detection and line endings

Nearly all that detection looks for is found in one convention of line endings exactly if it is
found in the other. The exception is the head of an indented block, whose colon has to stand at
the end of its line but for spaces and tabs. With a carriage return in between it is never found,
so a snippet that nothing else tells to be Python is taken for a script.
-/

namespace CodeGloss.Language

open Text

/-! ## Steps of the tests -/

theorem behind?_withReturns {word : String} (noBreak : '\n' ∉ word.toList)
    (noReturn : '\r' ∉ word.toList) (text : List Char) :
    behind? word (withReturns text) = (behind? word text).map withReturns := by
  apply Option.ext
  intro rest
  rw [behind?_eq_some_iff, withReturns_eq_append_iff noBreak noReturn, Option.map_eq_some_iff]
  simp only [behind?_eq_some_iff]

theorem startsWith_withReturns {word : String} (noBreak : '\n' ∉ word.toList)
    (noReturn : '\r' ∉ word.toList) (text : List Char) :
    startsWith word (withReturns text) = startsWith word text := by
  rw [startsWith, behind?_withReturns noBreak noReturn, Option.isSome_map, startsWith]

theorem startsWithWordChar_withReturns (text : List Char) :
    startsWithWordChar (withReturns text) = startsWithWordChar text :=
  head?_any_withReturns (by decide) text

theorem behindBlanks?_withReturns (text : List Char) :
    behindBlanks? (withReturns text) = (behindBlanks? text).map withReturns := by
  rw [behindBlanks?, head?_any_withReturns (by decide), stripLeft_withReturns, behindBlanks?]
  split <;> rfl

theorem behindWord?_withReturns (text : List Char) :
    behindWord? (withReturns text) = (behindWord? text).map withReturns := by
  rw [behindWord?, startsWithWordChar_withReturns, dropWhile_withReturns (by decide), behindWord?]
  split <;> rfl

theorem endsLine_withReturns (text : List Char) : endsLine (withReturns text) = endsLine text := by
  rw [endsLine, stripLeft_withReturns, isEmpty_withReturns, takeWhile_withReturns (by decide),
    contains_withReturns (by decide), endsLine]

theorem head?_beq_withReturns {c : Char} (noBreak : c ≠ '\n') (noReturn : c ≠ '\r')
    (text : List Char) : ((withReturns text).head? == some c) = (text.head? == some c) := by
  induction text using returns_induction with
  | empty => rw [withReturns_nil]
  | lineFeed rest _ =>
      rw [withReturns_break]
      simp [noBreak.symm, noReturn.symm]
  | other d rest other _ =>
      rw [withReturns_cons other]
      rfl

/-! ## Tests at every place -/

section Search

variable {test other : List Char → Bool}

/-- A test that fails at line feeds is passed at the same places of both texts. -/
theorem somewhere_withReturns (fails : ∀ rest, test ('\n' :: rest) = false)
    (keeps : ∀ text, test (withReturns text) = test text) (text : List Char) :
    somewhere test (withReturns text) = somewhere test text := by
  induction text using returns_induction with
  | empty => rw [withReturns_nil]
  | lineFeed rest ih =>
      have here := keeps ('\n' :: rest)
      rw [withReturns_break] at here ⊢
      rw [somewhere, somewhere, somewhere, ih, here, fails, fails, Bool.false_or]
  | other c rest isOther ih =>
      have here := keeps (c :: rest)
      rw [withReturns_cons isOther] at here ⊢
      rw [somewhere, somewhere, ih, here]

theorem onSomeLine_withReturns (turns : ∀ text, test (withReturns text) = other text)
    (text : List Char) : onSomeLine test (withReturns text) = onSomeLine other text := by
  have behind : ∀ text, afterBreak test (withReturns text) = afterBreak other text := by
    intro text
    induction text using returns_induction with
    | empty =>
        rw [withReturns_nil]
        rfl
    | lineFeed rest ih =>
        rw [withReturns_break, afterBreak, afterBreak, afterBreak, turns, ih]
        rfl
    | other c rest isOther ih =>
        rw [withReturns_cons isOther, afterBreak, afterBreak, ih, beq_false_of_ne isOther,
          Bool.false_and, Bool.false_and]
  rw [onSomeLine, turns, behind, onSomeLine]

theorem onSomeLine_false (text : List Char) : onSomeLine (fun _ => false) text = false := by
  rw [onSomeLine, Bool.false_or]
  induction text with
  | nil => rfl
  | cons c rest ih => rw [afterBreak, ih, Bool.and_false, Bool.or_false]

end Search

/-! ## Markup and types -/

theorem isOpeningTag_of_ne {c : Char} (other : c ≠ '<') (rest : List Char) :
    isOpeningTag (c :: rest) = false := by
  unfold isOpeningTag
  split
  · rename_i isText
    exact absurd (List.cons.inj isText).1 other
  · rfl

theorem isOpeningTag_withReturns (text : List Char) :
    isOpeningTag (withReturns text) = isOpeningTag text := by
  induction text using returns_induction with
  | empty => rw [withReturns_nil]
  | lineFeed rest _ =>
      rw [withReturns_break]
      rfl
  | other c rest other _ =>
      rw [withReturns_cons other]
      by_cases opens : c = '<'
      · rw [opens]
        cases rest with
        | nil => rw [withReturns_nil]
        | cons d rest =>
            by_cases isFeed : d = '\n'
            · rw [isFeed, withReturns_break]
              rfl
            · rw [withReturns_cons isFeed, isOpeningTag, contains_withReturns (by decide),
                isOpeningTag]
      · rw [isOpeningTag_of_ne opens, isOpeningTag_of_ne opens]

theorem isClosingTag_withReturns (text : List Char) :
    isClosingTag (withReturns text) = isClosingTag text := by
  rw [isClosingTag, behind?_withReturns (by decide) (by decide), Option.any_map]
  simp only [isClosingTag, startsWithWordChar_withReturns]

theorem isMarkup_withReturns (text : List Char) : isMarkup (withReturns text) = isMarkup text := by
  rw [isMarkup, somewhere_withReturns (fun rest => rfl) isOpeningTag_withReturns,
    somewhere_withReturns (fun rest => rfl) isClosingTag_withReturns, isMarkup]

theorem isInterface_withReturns (text : List Char) :
    isInterface (withReturns text) = isInterface text := by
  rw [isInterface, behind?_withReturns (by decide) (by decide), Option.any_map]
  simp only [isInterface, behindBlanks?_withReturns, Option.any_map,
    startsWithWordChar_withReturns]

theorem isTypeAlias_withReturns (text : List Char) :
    isTypeAlias (withReturns text) = isTypeAlias text := by
  have equals := @head?_beq_withReturns '=' (by decide) (by decide)
  rw [isTypeAlias, behind?_withReturns (by decide) (by decide), Option.any_map]
  simp only [isTypeAlias, behindBlanks?_withReturns, behindWord?_withReturns,
    stripLeft_withReturns, Option.any_map, equals]

theorem looksTyped_withReturns (text : List Char) :
    looksTyped (withReturns text) = looksTyped text := by
  rw [looksTyped, somewhere_withReturns (fun rest => rfl) isInterface_withReturns,
    somewhere_withReturns (fun rest => rfl) isTypeAlias_withReturns,
    somewhere_withReturns (fun rest => rfl) (startsWith_withReturns (by decide) (by decide)),
    looksTyped]

/-! ## Definitions, imports and blocks -/

theorem isDefinition_withReturns (text : List Char) :
    isDefinition (withReturns text) = isDefinition text := by
  rw [isDefinition, stripLeft_withReturns, startsWith_withReturns (by decide) (by decide),
    startsWith_withReturns (by decide) (by decide), isDefinition]

theorem isBareImport_withReturns (text : List Char) :
    isBareImport (withReturns text) = isBareImport text := by
  rw [isBareImport, stripLeft_withReturns, behind?_withReturns (by decide) (by decide),
    Option.any_map]
  simp only [isBareImport, behindBlanks?_withReturns, behindWord?_withReturns, Option.any_map,
    endsLine_withReturns]

theorem isColonPass_of_ne {c : Char} (other : c ≠ ':') (rest : List Char) :
    isColonPass (c :: rest) = false := by
  unfold isColonPass
  split
  · rename_i isText
    exact absurd (List.cons.inj isText).1 other
  · rfl

/-- Between the colon and `pass` may stand any blanks. The indent stands behind the last line
feed of these. -/
theorem isColonPass_withReturns (text : List Char) :
    isColonPass (withReturns text) = isColonPass text := by
  have gap := @takeWhile_withReturns isBlank rfl
  induction text using returns_induction with
  | empty => rw [withReturns_nil]
  | lineFeed rest _ =>
      rw [withReturns_break]
      rfl
  | other c rest other _ =>
      rw [withReturns_cons other]
      by_cases isColon : c = ':'
      · rw [isColon]
        simp only [isColonPass, gap, lastLine_withReturns, stripLeft_withReturns]
        rw [contains_withReturns (by decide), behind?_withReturns (by decide) (by decide),
          Option.any_map]
        simp only [startsWithWordChar_withReturns]
      · rw [isColonPass_of_ne isColon, isColonPass_of_ne isColon]

/-- The colon of a block is never the last character on a line that ends with a carriage
return. -/
theorem opensBlock_withReturns (text : List Char) : opensBlock (withReturns text) = false := by
  unfold opensBlock
  generalize isHeader : (withReturns text).takeWhile
    (fun c => !(c == '\n' || c == '\x7b' || c == ';')) = header
  have starts : header <+: withReturns text := isHeader ▸ List.takeWhile_prefix _
  have parts := List.prefix_iff_eq_append.mp starts
  simp only
  split
  · rename_i below isBelow
    rw [isBelow] at parts
    rcases exists_return_of_withReturns parts.symm with ⟨before, rfl⟩
    rw [List.reverse_append]
    rfl
  · rfl

theorem isBlockHeader_withReturns (text : List Char) :
    isBlockHeader (withReturns text) = false := by
  rw [isBlockHeader, List.any_eq_false]
  intro word member
  have plain : ∀ word ∈ blockWords, '\n' ∉ word.toList ∧ '\r' ∉ word.toList := by decide
  rw [stripLeft_withReturns, behind?_withReturns (plain word member).1 (plain word member).2,
    Option.any_map]
  simp [opensBlock_withReturns]

/-- The look-outs for Python are kept except for the one for indented blocks, which is lost. -/
theorem looksIndented_withReturns (text : List Char) :
    looksIndented (withReturns text) =
      (onSomeLine isDefinition text || onSomeLine isBareImport text
        || somewhere isColonPass text) := by
  rw [looksIndented, onSomeLine_withReturns isDefinition_withReturns,
    onSomeLine_withReturns isBareImport_withReturns,
    somewhere_withReturns (fun rest => rfl) isColonPass_withReturns,
    onSomeLine_withReturns isBlockHeader_withReturns, onSomeLine_false, Bool.or_false]

/-! ## Detection -/

/-- Nothing tells that the snippet is Python but the head of an indented block. -/
structure ToldByBlocksAlone (source : List Char) : Prop where
  markup : isMarkup (strip source) = false
  definition : onSomeLine isDefinition (strip source) = false
  bareImport : onSomeLine isBareImport (strip source) = false
  colonPass : somewhere isColonPass (strip source) = false
  block : onSomeLine isBlockHeader (strip source) = true

/-- With markup and Python excluded, every rule that is left gives another language. -/
theorem rules_ne_python (empty typed : Bool) :
    (if empty then plain else if typed then ts else js) ≠ python := by
  cases empty <;> cases typed <;> decide

/-- What is not markup is told alike exactly if it looks indented in both conventions or in
none. -/
theorem detect_withReturns_eq_iff_looksIndented {source : List Char}
    (notMarkup : isMarkup (strip source) = false) :
    detect (withReturns source) = detect source ↔
      looksIndented (withReturns (strip source)) = looksIndented (strip source) := by
  have others := rules_ne_python (strip source).isEmpty (looksTyped (strip source))
  rw [detect_eq, detect_eq, strip_withReturns, isMarkup_withReturns, notMarkup,
    isEmpty_withReturns, looksTyped_withReturns, if_neg Bool.false_ne_true,
    if_neg Bool.false_ne_true]
  cases looksIndented (withReturns (strip source)) <;> cases looksIndented (strip source)
  · exact iff_of_true rfl rfl
  · exact iff_of_false others Bool.false_ne_true
  · exact iff_of_false others.symm Bool.false_ne_true.symm
  · exact iff_of_true rfl rfl

/-- The convention of line endings makes a difference exactly for those snippets that the head of
an indented block alone tells to be Python. -/
theorem detect_withReturns_eq_iff (source : List Char) :
    detect (withReturns source) = detect source ↔ ¬ ToldByBlocksAlone source := by
  cases markup : isMarkup (strip source) with
  | true =>
      have isJsx := (detect_eq_jsx_iff source).mpr markup
      have staysJsx : detect (withReturns source) = jsx := by
        rw [detect_eq_jsx_iff, strip_withReturns, isMarkup_withReturns]
        exact markup
      apply iff_of_true (staysJsx.trans isJsx.symm)
      intro told
      rw [told.markup] at markup
      contradiction
  | false =>
      rw [detect_withReturns_eq_iff_looksIndented markup, looksIndented_withReturns,
        looksIndented, Bool.eq_self_or]
      constructor
      · intro needless told
        have found := needless told.block
        rw [told.definition, told.bareImport, told.colonPass] at found
        contradiction
      · intro notTold block
        by_contra lacking
        rw [Bool.not_eq_true, Bool.or_eq_false_iff, Bool.or_eq_false_iff] at lacking
        exact notTold ⟨markup, lacking.1.1, lacking.1.2, lacking.2, block⟩

/-- A block that opens at the end of a line is Python, and with carriage returns it is taken for
a script. -/
theorem not_detect_withReturns_eq :
    let source := "if ready:\n    start()".toList
    '\r' ∉ source ∧ detect source = python ∧ detect (withReturns source) ≠ detect source := by
  intro source
  have isReturned : withReturns source = "if ready:\r\n    start()".toList := by
    rw [withReturns, replaceAll_singleton]
    decide +kernel
  rw [isReturned]
  decide +kernel

end CodeGloss.Language
