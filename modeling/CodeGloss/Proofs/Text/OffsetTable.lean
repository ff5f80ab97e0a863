import CodeGloss.Proofs.Text.Places
import CodeGloss.Proofs.Text.Slice
import CodeGloss.Proofs.Text.Utf8

/-!
# Places from a table

The place of a byte offset is the number of characters that end at or before it. All places of a
text can be written into a table beforehand, as often as each character has bytes, with the end of
the text behind them. Finding a place is looking it up there, and where every character has one
byte the table holds what it is asked for.
-/

namespace CodeGloss.Text

open Utf8

/-! ## Counting characters -/

/-- The number of characters whose bytes end at or before an offset. -/
def charsEnded (text : List Char) (offset : Nat) : Nat :=
  (List.range text.length).countP fun index => (encode (text.take (index + 1))).length ≤ offset

theorem charsEnded_cons (c : Char) (rest : List Char) (offset : Nat) :
    charsEnded (c :: rest) offset =
      if offset < width c then 0 else charsEnded rest (offset - width c) + 1 := by
  have ends : ∀ index, (encode ((c :: rest).take (index + 1))).length =
      width c + (encode (rest.take index)).length := by
    intro index
    rw [List.take_succ_cons, encode_cons, List.length_append, length_encodeChar]
  have first : (encode ((c :: rest).take (0 + 1))).length = width c := by
    rw [ends, List.take_zero, encode_nil, List.length_nil, Nat.add_zero]
  rw [charsEnded, List.length_cons, List.range_succ_eq_map, List.countP_cons, List.countP_map,
    first]
  by_cases behind : width c ≤ offset
  · rw [if_neg (Nat.not_lt.mpr behind), if_pos (decide_eq_true behind), charsEnded]
    congr 1
    apply List.countP_congr
    intro index _
    simp only [Function.comp_apply, ends, Nat.succ_eq_add_one, decide_eq_true_eq]
    omega
  · rw [if_pos (Nat.lt_of_not_le behind), if_neg (by simpa using behind), Nat.add_zero,
      List.countP_eq_zero]
    intro index _
    simp only [Function.comp_apply, ends, decide_eq_true_eq]
    omega

theorem charIndex?_eq_charsEnded {text : List Char} {offset : Nat}
    (inText : offset ≤ (encode text).length) :
    charIndex? text offset = some (charsEnded text offset) := by
  induction text generalizing offset with
  | nil =>
      rw [Nat.le_zero.mp inText]
      rfl
  | cons c rest ih =>
      rw [encode_cons, List.length_append, length_encodeChar] at inText
      rw [charIndex?, charsEnded_cons]
      split
      · rfl
      · rw [ih (by omega)]
        rfl

/-! ## Filling the table -/

/-- Write an index at a place and behind it, `width` times. -/
def writeRun (table : List Nat) (place index : Nat) : Nat → List Nat
  | 0 => table
  | width + 1 => writeRun (table.set place index) (place + 1) index width

/-- Write the index of each character at the offsets of its bytes, and the number of characters
at the end. -/
def fillTable (table : List Nat) (place index : Nat) : List Char → List Nat
  | [] => table.set place index
  | c :: rest => fillTable (writeRun table place index (width c)) (place + width c) (index + 1) rest

/-- The places of all offsets of a text. -/
def offsetTable (text : List Char) : List Nat :=
  fillTable (List.replicate ((encode text).length + 1) 0) 0 0 text

theorem writeRun_append {width : Nat} (front : List Nat) {old : List Nat} (index : Nat)
    (room : width ≤ old.length) :
    writeRun (front ++ old) front.length index width =
      front ++ List.replicate width index ++ old.drop width := by
  induction width generalizing front old with
  | zero => simp [writeRun]
  | succ width ih =>
      cases old with
      | nil => simp at room
      | cons first old =>
          have next : (front ++ first :: old).set front.length index =
              (front ++ [index]) ++ old := by
            rw [List.set_append_right _ _ (Nat.le_refl _), Nat.sub_self, List.set_cons_zero,
              List.append_assoc, List.singleton_append]
          have filled := ih (front ++ [index]) (Nat.le_of_succ_le_succ room)
          rw [List.length_append, List.length_singleton] at filled
          rw [writeRun, next, filled, List.drop_succ_cons, List.replicate_succ]
          simp only [List.append_assoc, List.singleton_append]

/-- What is written behind a part of the table are the places of the text, counted from the
index. -/
theorem exists_fillTable_append {text : List Char} (front : List Nat) {old : List Nat}
    (index : Nat) (room : old.length = (encode text).length + 1) :
    ∃ places, fillTable (front ++ old) front.length index text = front ++ places
      ∧ ∀ offset, places[offset]? = (charIndex? text offset).map (index + ·) := by
  induction text generalizing front old index with
  | nil =>
      rcases List.length_eq_one_iff.mp room with ⟨last, rfl⟩
      refine ⟨[index], ?_, ?_⟩
      · rw [fillTable, List.set_append_right _ _ (Nat.le_refl _), Nat.sub_self, List.set_cons_zero]
      · intro offset
        cases offset with
        | zero => rfl
        | succ offset => rfl
  | cons c rest ih =>
      rw [encode_cons, List.length_append, length_encodeChar] at room
      have shorter : (old.drop (width c)).length = (encode rest).length + 1 := by
        rw [List.length_drop]
        omega
      rcases ih (front ++ List.replicate (width c) index) (index + 1) shorter with
        ⟨places, filled, looksUp⟩
      rw [List.length_append, List.length_replicate] at filled
      refine ⟨List.replicate (width c) index ++ places, ?_, ?_⟩
      · rw [fillTable, writeRun_append front index (by omega), filled, List.append_assoc]
      · intro offset
        rw [charIndex?]
        split
        · rename_i within
          rw [List.getElem?_append_left (by rwa [List.length_replicate]),
            List.getElem?_replicate_of_lt within]
          rfl
        · rename_i behind
          rw [List.getElem?_append_right (by rw [List.length_replicate]; omega),
            List.length_replicate, looksUp, Option.map_map]
          congr 1
          funext place
          simp only [Function.comp_apply]
          omega

/-- The table holds the place of each offset, and nothing behind the end of the text. -/
theorem getElem?_offsetTable (text : List Char) (offset : Nat) :
    (offsetTable text)[offset]? = charIndex? text offset := by
  have room : (List.replicate ((encode text).length + 1) 0).length = (encode text).length + 1 :=
    List.length_replicate
  rcases exists_fillTable_append [] 0 room with ⟨places, filled, looksUp⟩
  rw [offsetTable]
  rw [List.nil_append, List.nil_append, List.length_nil] at filled
  rw [filled, looksUp]
  simp

example : offsetTable "aé😀".toList = [0, 1, 1, 2, 2, 2, 2, 3] := by decide

/-! ## Boundaries of characters -/

/-- The offset stands between two characters, or at an end of the text. -/
def IsBoundary (text : List Char) (offset : Nat) : Prop :=
  ∃ front rest, text = front ++ rest ∧ (encode front).length = offset

/-- The bytes between two boundaries are those of the characters between their places. -/
theorem decode_slice_encode {text : List Char} {start stop : Nat} (starts : IsBoundary text start)
    (stops : IsBoundary text stop) :
    ∃ first last, placeOf? text start = some first ∧ placeOf? text stop = some last
      ∧ decode (slice (encode text) start stop) = .ok (slice text first last) := by
  rcases starts with ⟨front, rest, isFront, rfl⟩
  rcases stops with ⟨upTo, after, isUpTo, rfl⟩
  have isFirst := placeOf?_append front rest
  have isLast := placeOf?_append upTo after
  rw [← isFront] at isFirst
  rw [← isUpTo] at isLast
  refine ⟨_, _, isFirst, isLast, ?_⟩
  rcases List.prefix_or_prefix_of_prefix ⟨rest, isFront.symm⟩ ⟨after, isUpTo.symm⟩ with
    ⟨middle, rfl⟩ | ⟨middle, rfl⟩
  · have bytes : encode text = encode front ++ (encode middle ++ encode after) := by
      rw [isUpTo, encode_append, encode_append, List.append_assoc]
    have chars : text = front ++ (middle ++ after) := by rw [isUpTo, List.append_assoc]
    rw [bytes, slice_of_append rfl (by rw [encode_append, List.length_append]), decode_encode]
    rw [chars, slice_of_append rfl (by rw [List.length_append])]
  · -- Where the range is turned round, there is nothing between.
    have bytes : (encode upTo).length ≤ (encode (upTo ++ middle)).length := by
      rw [encode_append, List.length_append]
      exact Nat.le_add_right _ _
    have chars : upTo.length ≤ (upTo ++ middle).length := by
      rw [List.length_append]
      exact Nat.le_add_right _ _
    rw [slice_eq_nil_of_le _ bytes, slice_eq_nil_of_le _ chars]
    exact decode_encode []

/-- Behind a front the offsets of a text have their places behind it. -/
theorem charIndex?_append_add (front rest : List Char) (offset : Nat) :
    charIndex? (front ++ rest) ((encode front).length + offset) =
      (charIndex? rest offset).map (front.length + ·) := by
  induction front with
  | nil => simp
  | cons c front ih =>
      rw [encode_cons, List.length_append, length_encodeChar, Nat.add_assoc, List.cons_append,
        charIndex?_cons_of_width_le (Nat.le_add_right _ _), Nat.add_sub_cancel_left, ih,
        Option.map_map]
      congr 1
      funext place
      rw [Function.comp_apply, List.length_cons, Nat.add_right_comm]

/-- Every byte of a character stands for the place of the character. -/
theorem placeOf?_byte (front : List Char) (c : Char) (rest : List Char) {byte : Nat}
    (ofChar : byte < width c) :
    placeOf? (front ++ c :: rest) ((encode front).length + byte) = some front.length := by
  have inText : (encode front).length + byte ≤ (encode (front ++ c :: rest)).length := by
    rw [encode_append, encode_cons, List.length_append, List.length_append, length_encodeChar]
    omega
  rw [placeOf?_eq_charIndex? inText, charIndex?_append_add, charIndex?, if_pos ofChar]
  rfl

/-! ## The conversion -/

/-- Byte offsets of a text are converted into places: each into the number of characters that have
ended there, so that the bytes of a character are taken for the character, later offsets have later
places, and what lies between boundaries is the same text on either side. -/
structure IsConversion (text : List Char) (convert : Nat → Option Nat) : Prop where
  counts : ∀ offset ≤ (encode text).length, convert offset = some (charsEnded text offset)
  bytes : ∀ front c rest, text = front ++ c :: rest → ∀ byte < width c,
    convert ((encode front).length + byte) = some front.length
  monotone : ∀ first second firstPlace secondPlace, first ≤ second →
    convert first = some firstPlace → convert second = some secondPlace → firstPlace ≤ secondPlace
  slices : ∀ start stop, IsBoundary text start → IsBoundary text stop →
    ∃ first last, convert start = some first ∧ convert stop = some last
      ∧ decode (slice (encode text) start stop) = .ok (slice text first last)

/-- Places are found by looking them up in a table, unless the text has as many bytes as
characters. Then every offset up to the end is its own place, and the table holds the same. Either
way the conversion is exact. -/
theorem placeOf?_isConversion (text : List Char) :
    IsConversion text (placeOf? text)
      ∧ (∀ offset, placeOf? text offset =
        if (encode text).length = text.length then some offset else (offsetTable text)[offset]?)
      ∧ ((encode text).length = text.length →
        ∀ offset ≤ (encode text).length, (offsetTable text)[offset]? = some offset) := by
  refine ⟨⟨?_, ?_, ?_, ?_⟩, ?_, ?_⟩
  · intro offset inText
    rw [placeOf?_eq_charIndex? inText, charIndex?_eq_charsEnded inText]
  · rintro front c rest rfl byte ofChar
    exact placeOf?_byte front c rest ofChar
  · intro first second firstPlace secondPlace order
    exact placeOf?_mono order
  · intro start stop
    exact decode_slice_encode
  · intro offset
    rw [placeOf?, isSingleByte, getElem?_offsetTable]
    simp only [beq_iff_eq]
  · intro single offset inText
    rw [getElem?_offsetTable, charIndex?_of_singleByte single (single ▸ inText)]

end CodeGloss.Text
