import CodeGloss.Text.CodeRange

/-!
# Blanks and stripping

Blank characters are the Unicode white space, together with the four
information separators. Stripping removes blanks from both ends and from
nowhere else, so a text is blank exactly when stripping leaves nothing.
-/

namespace CodeGloss.Text

/-- Every blank code point. -/
def blankRanges : CodeRanges :=
  [(0x9, 0xD), (0x1C, 0x20), (0x85, 0x85), (0xA0, 0xA0), (0x1680, 0x1680), (0x2000, 0x200A),
   (0x2028, 0x2029), (0x202F, 0x202F), (0x205F, 0x205F), (0x3000, 0x3000)]

def isBlank (c : Char) : Bool :=
  blankRanges.contains c.toNat

def stripLeft (text : List Char) : List Char :=
  text.dropWhile isBlank

def stripRight (text : List Char) : List Char :=
  (text.reverse.dropWhile isBlank).reverse

/-- The text without the blanks at either end. -/
def strip (text : List Char) : List Char :=
  stripRight (stripLeft text)

def isBlankText (text : List Char) : Bool :=
  text.all isBlank

theorem dropWhile_isBlank_eq_nil_iff (text : List Char) :
    text.dropWhile isBlank = [] ↔ isBlankText text = true := by
  induction text with
  | nil => simp [isBlankText]
  | cons c rest ih =>
      cases blank : isBlank c with
      | false => simp [isBlankText, blank]
      | true => rw [List.dropWhile_cons_of_pos blank, ih]; simp [isBlankText, blank]

theorem stripLeft_eq_nil_iff (text : List Char) :
    stripLeft text = [] ↔ isBlankText text = true :=
  dropWhile_isBlank_eq_nil_iff text

theorem stripRight_eq_nil_iff (text : List Char) :
    stripRight text = [] ↔ isBlankText text = true := by
  rw [stripRight, List.reverse_eq_nil_iff, dropWhile_isBlank_eq_nil_iff]
  simp [isBlankText]

theorem head?_stripLeft_not_blank (text : List Char) {c : Char}
    (first : (stripLeft text).head? = some c) : isBlank c = false := by
  have kept := List.head?_dropWhile_not isBlank text
  unfold stripLeft at first
  rw [first] at kept
  simpa using kept

/-- Nothing is left of a blank text, and something of every other. -/
theorem strip_eq_nil_iff (text : List Char) : strip text = [] ↔ isBlankText text = true := by
  unfold strip
  rw [stripRight_eq_nil_iff]
  constructor
  · intro blankRest
    cases rest : stripLeft text with
    | nil => exact (stripLeft_eq_nil_iff text).1 rest
    | cons c tail =>
        have notBlank : isBlank c = false :=
          head?_stripLeft_not_blank text (by rw [rest]; rfl)
        rw [rest] at blankRest
        simp [isBlankText, notBlank] at blankRest
  · intro blank
    rw [(stripLeft_eq_nil_iff text).2 blank]
    rfl

theorem stripLeft_of_head? {text : List Char}
    (first : ∀ c, text.head? = some c → isBlank c = false) : stripLeft text = text := by
  cases text with
  | nil => rfl
  | cons c rest => exact List.dropWhile_cons_of_neg (by simp [first c rfl])

theorem stripLeft_stripLeft (text : List Char) : stripLeft (stripLeft text) = stripLeft text :=
  stripLeft_of_head? fun _ first => head?_stripLeft_not_blank text first

theorem stripRight_eq_stripLeft (text : List Char) :
    stripRight text = (stripLeft text.reverse).reverse :=
  rfl

theorem stripRight_stripRight (text : List Char) :
    stripRight (stripRight text) = stripRight text := by
  simp only [stripRight_eq_stripLeft, List.reverse_reverse, stripLeft_stripLeft]

theorem stripRight_prefix (text : List Char) : stripRight text <+: text := by
  rw [stripRight, ← List.reverse_suffix, List.reverse_reverse]
  exact List.dropWhile_suffix isBlank

/-- Stripping once is enough. -/
@[simp]
theorem strip_strip (text : List Char) : strip (strip text) = strip text := by
  have stripped : stripLeft (strip text) = strip text := by
    apply stripLeft_of_head?
    intro c first
    obtain ⟨blanks, parts⟩ := stripRight_prefix (stripLeft text)
    apply head?_stripLeft_not_blank text
    rw [← parts, List.head?_append]
    exact congrArg (·.or blanks.head?) first
  rw [strip, stripped, strip, stripRight_stripRight]

theorem getLast?_strip_not_blank {text : List Char} {c : Char}
    (last : (strip text).getLast? = some c) : isBlank c = false := by
  rw [strip, stripRight_eq_stripLeft, List.getLast?_reverse] at last
  exact head?_stripLeft_not_blank _ last

end CodeGloss.Text
