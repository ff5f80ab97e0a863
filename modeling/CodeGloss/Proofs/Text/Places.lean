import CodeGloss.Text.ByteOffset

/-!
# Places of byte offsets

Every offset up to the end of a text stands for a place, later offsets for later
places. A byte below 128 is a character of its own, so its offset is where this
character stands.
-/

namespace CodeGloss.Text

open Utf8

/-! ## Offsets and places -/

section Offsets

variable {text : List Char}

theorem exists_charIndex? {offset : Nat} (inText : offset ≤ (encode text).length) :
    ∃ place ≤ text.length, charIndex? text offset = some place := by
  induction text generalizing offset with
  | nil =>
      rw [Nat.le_zero.mp inText]
      exact ⟨0, Nat.le_refl _, rfl⟩
  | cons c rest ih =>
      rw [encode_cons, List.length_append, length_encodeChar] at inText
      by_cases behind : width c ≤ offset
      · rcases ih (Nat.sub_le_of_le_add (Nat.add_comm .. ▸ inText)) with ⟨place, bound, isPlace⟩
        refine ⟨place + 1, Nat.succ_le_succ bound, ?_⟩
        rw [charIndex?_cons_of_width_le behind, isPlace]
        rfl
      · refine ⟨0, Nat.zero_le _, ?_⟩
        rw [charIndex?, if_pos (Nat.lt_of_not_le behind)]

theorem charIndex?_mono {first second firstPlace secondPlace : Nat} (order : first ≤ second)
    (isFirst : charIndex? text first = some firstPlace)
    (isSecond : charIndex? text second = some secondPlace) : firstPlace ≤ secondPlace := by
  induction text generalizing first second firstPlace secondPlace with
  | nil =>
      rw [charIndex?, Option.ite_none_right_eq_some] at isFirst
      rw [← Option.some.inj isFirst.2]
      exact Nat.zero_le _
  | cons c rest ih =>
      by_cases behind : width c ≤ first
      · rw [charIndex?_cons_of_width_le behind] at isFirst
        rw [charIndex?_cons_of_width_le (Nat.le_trans behind order)] at isSecond
        rcases Option.map_eq_some_iff.mp isFirst with ⟨firstRest, isFirstRest, rfl⟩
        rcases Option.map_eq_some_iff.mp isSecond with ⟨secondRest, isSecondRest, rfl⟩
        exact Nat.succ_le_succ (ih (Nat.sub_le_sub_right order _) isFirstRest isSecondRest)
      · rw [charIndex?, if_pos (Nat.lt_of_not_le behind)] at isFirst
        rw [← Option.some.inj isFirst]
        exact Nat.zero_le _

/-- The offset behind the bytes of a text stands for the place behind the text. -/
theorem charIndex?_append (front rest : List Char) :
    charIndex? (front ++ rest) (encode front).length = some front.length := by
  induction front with
  | nil => exact charIndex?_zero rest
  | cons c front ih =>
      rw [encode_cons, List.length_append, length_encodeChar, List.cons_append,
        charIndex?_cons_of_width_le (Nat.le_add_right _ _), Nat.add_sub_cancel_left, ih]
      rfl

theorem length_le_length_encode (text : List Char) : text.length ≤ (encode text).length := by
  induction text with
  | nil => exact Nat.le_refl _
  | cons c rest ih =>
      have positive := width_pos c
      rw [encode_cons, List.length_append, length_encodeChar, List.length_cons]
      omega

/-- Where every character takes one byte, an offset is its own place. -/
theorem charIndex?_of_singleByte (single : (encode text).length = text.length) {offset : Nat}
    (inText : offset ≤ text.length) : charIndex? text offset = some offset := by
  induction text generalizing offset with
  | nil => rw [Nat.le_zero.mp inText, charIndex?_zero]
  | cons c rest ih =>
      have atLeast := length_le_length_encode rest
      have positive := width_pos c
      rw [encode_cons, List.length_append, length_encodeChar, List.length_cons] at single
      have oneByte : width c = 1 := by omega
      cases offset with
      | zero => rw [charIndex?_zero]
      | succ offset =>
          rw [List.length_cons] at inText
          rw [charIndex?_cons_of_width_le (by omega), oneByte, Nat.add_sub_cancel,
            ih (by omega) (by omega)]
          rfl

/-- Up to the end of the text it makes no difference how a place is found. -/
theorem placeOf?_eq_charIndex? {offset : Nat} (inText : offset ≤ (encode text).length) :
    placeOf? text offset = charIndex? text offset := by
  unfold placeOf?
  split
  · rename_i single
    rw [isSingleByte, beq_iff_eq] at single
    rw [single] at inText
    rw [charIndex?_of_singleByte single inText]
  · rfl

theorem exists_placeOf? {offset : Nat} (inText : offset ≤ (encode text).length) :
    ∃ place ≤ text.length, placeOf? text offset = some place := by
  rw [placeOf?_eq_charIndex? inText]
  exact exists_charIndex? inText

theorem placeOf?_mono {first second firstPlace secondPlace : Nat} (order : first ≤ second)
    (isFirst : placeOf? text first = some firstPlace)
    (isSecond : placeOf? text second = some secondPlace) : firstPlace ≤ secondPlace := by
  unfold placeOf? at isFirst isSecond
  split at isFirst
  · rename_i single
    rw [if_pos single] at isSecond
    rw [← Option.some.inj isFirst, ← Option.some.inj isSecond]
    exact order
  · rename_i several
    rw [if_neg several] at isSecond
    exact charIndex?_mono order isFirst isSecond

theorem placeOf?_append (front rest : List Char) :
    placeOf? (front ++ rest) (encode front).length = some front.length := by
  rw [placeOf?_eq_charIndex? (by rw [encode_append, List.length_append]; exact Nat.le_add_right _ _)]
  exact charIndex?_append front rest

end Offsets

/-! ## Bytes below 128 -/

theorem encodeChar_of_ascii {c : Char} (ascii : c.toNat < 0x80) :
    encodeChar c = [c.toNat.toUInt8] := by
  simp [encodeChar, ascii]

/-- The bytes of any other character are 128 or more. -/
theorem le_toNat_of_mem_encodeChar {c : Char} {b : UInt8} (beyond : 0x80 ≤ c.toNat)
    (member : b ∈ encodeChar c) : 0x80 ≤ b.toNat := by
  have valid : c.toNat < 0xD800 ∨ 0xDFFF < c.toNat ∧ c.toNat < 0x110000 := c.valid
  have toNat : ∀ n : Nat, n.toUInt8.toNat = n % 256 := fun n => UInt8.toNat_ofNat'
  rw [encodeChar] at member
  simp only [if_neg (Nat.not_lt.mpr beyond)] at member
  split at member
  · simp only [List.mem_cons, List.not_mem_nil, or_false] at member
    rcases member with rfl | rfl <;> rw [toNat] <;> omega
  · split at member
    · simp only [List.mem_cons, List.not_mem_nil, or_false] at member
      rcases member with rfl | rfl | rfl <;> rw [toNat] <;> omega
    · simp only [List.mem_cons, List.not_mem_nil, or_false] at member
      rcases member with rfl | rfl | rfl | rfl <;> rw [toNat] <;> omega

/-- A byte below 128 is a character, and its offset is where the character stands. -/
theorem exists_char_of_getElem?_encode {text : List Char} {offset : Nat} {b : UInt8}
    (isByte : (encode text)[offset]? = some b) (ascii : b.toNat < 0x80) :
    ∃ front c rest, text = front ++ c :: rest ∧ (encode front).length = offset
      ∧ c.toNat = b.toNat := by
  induction text generalizing offset with
  | nil => simp at isByte
  | cons c rest ih =>
      rw [encode_cons] at isByte
      by_cases behind : width c ≤ offset
      · rw [List.getElem?_append_right (by rwa [length_encodeChar]), length_encodeChar] at isByte
        rcases ih isByte with ⟨front, found, after, rfl, place, same⟩
        refine ⟨c :: front, found, after, rfl, ?_, same⟩
        rw [encode_cons, List.length_append, length_encodeChar, place]
        omega
      · have within : offset < (encodeChar c).length := by
          rw [length_encodeChar]
          omega
        rw [List.getElem?_append_left within] at isByte
        have member := List.mem_of_getElem? isByte
        have isAscii : c.toNat < 0x80 := by
          apply Nat.lt_of_not_le
          intro beyond
          exact absurd ascii (Nat.not_lt.mpr (le_toNat_of_mem_encodeChar beyond member))
        rw [encodeChar_of_ascii isAscii] at within member
        have atStart : offset = 0 := Nat.lt_one_iff.mp within
        refine ⟨[], c, rest, rfl, atStart.symm, ?_⟩
        have inByte : c.toNat < 256 := by omega
        rw [List.mem_singleton.mp member]
        exact (UInt8.toNat_ofNat_of_lt' inByte).symm

/-- A byte below 128 has its place, and the next offset has the next place. -/
theorem exists_place_of_ascii {text : List Char} {offset : Nat} {b : UInt8}
    (isByte : (encode text)[offset]? = some b) (ascii : b.toNat < 0x80) :
    ∃ place, placeOf? text offset = some place ∧ placeOf? text (offset + 1) = some (place + 1)
      ∧ text[place]? = some (Char.ofNat b.toNat) := by
  rcases exists_char_of_getElem?_encode isByte ascii with ⟨front, c, rest, rfl, rfl, same⟩
  have oneByte : (encode [c]).length = 1 := by
    rw [encode_cons, encode_nil, List.append_nil, encodeChar_of_ascii (by rw [same]; exact ascii)]
    rfl
  refine ⟨front.length, placeOf?_append front (c :: rest), ?_, ?_⟩
  · have behind := placeOf?_append (front ++ [c]) rest
    rw [encode_append, List.length_append, oneByte, List.length_append, List.append_assoc] at behind
    exact behind
  · rw [List.getElem?_append_right (Nat.le_refl _), Nat.sub_self, List.getElem?_cons_zero, ← same,
      Char.ofNat_toNat]

end CodeGloss.Text
