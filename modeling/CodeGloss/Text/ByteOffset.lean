import CodeGloss.Text.Utf8

/-!
# Byte offsets

A syntax tree counts bytes and an edit counts characters. An offset inside a
character means that character. A text whose characters are one byte each needs
no count, and then an offset beyond the text stands for itself.
-/

namespace CodeGloss.Text

/-- The number of characters that end at or before a byte offset. Offsets beyond
the text have none. -/
def charIndex? : List Char → Nat → Option Nat
  | [], offset => if offset = 0 then some 0 else none
  | c :: rest, offset =>
      if offset < Utf8.width c then some 0
      else (charIndex? rest (offset - Utf8.width c)).map (· + 1)

/-- Whether every character takes one byte. -/
def isSingleByte (text : List Char) : Bool :=
  (Utf8.encode text).length == text.length

/-- The place that a byte offset stands for. -/
def placeOf? (text : List Char) (offset : Nat) : Option Nat :=
  if isSingleByte text then some offset else charIndex? text offset

@[simp]
theorem charIndex?_zero (text : List Char) : charIndex? text 0 = some 0 := by
  cases text with
  | nil => rfl
  | cons c rest => simp [charIndex?, Utf8.width_pos]

theorem charIndex?_cons_of_width_le {c : Char} {rest : List Char} {offset : Nat}
    (behind : Utf8.width c ≤ offset) :
    charIndex? (c :: rest) offset = (charIndex? rest (offset - Utf8.width c)).map (· + 1) := by
  simp [charIndex?, Nat.not_lt.mpr behind]

end CodeGloss.Text
