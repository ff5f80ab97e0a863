import CodeGloss.Proofs.Text.Places
import CodeGloss.Proofs.Text.Slice
import CodeGloss.Syntax.Passage

/-!
# Bytes between quotes

A quote is one byte and one character. A range of bytes that quotes enclose is
therefore a range of characters that they enclose, whatever stands between them.
-/

namespace CodeGloss.Syntax

open Text

theorem exists_quote_of_isEnclosed {raw : List UInt8} (enclosed : isEnclosed raw = true) :
    ∃ quote ∈ quoteBytes, 2 ≤ raw.length ∧ raw[0]? = some quote
      ∧ raw[raw.length - 1]? = some quote := by
  cases raw with
  | nil => contradiction
  | cons first rest =>
      cases rest with
      | nil => contradiction
      | cons second rest =>
          simp only [isEnclosed, Bool.and_eq_true, beq_iff_eq] at enclosed
          rcases enclosed with ⟨isQuote, last⟩
          refine ⟨first, by simpa using isQuote, by simp, rfl, ?_⟩
          rw [List.getLast?_eq_getElem?] at last
          exact last

/-- A byte that is a quote stands for the character. -/
theorem exists_quote_of_getElem?_encode {text : List Char} {offset : Nat} {b : UInt8}
    (isQuote : b ∈ quoteBytes) (isByte : (Utf8.encode text)[offset]? = some b) :
    ∃ front rest, text = front ++ Char.ofNat b.toNat :: rest
      ∧ (Utf8.encode front).length = offset := by
  have ascii : b.toNat < 0x80 := by
    rcases List.mem_cons.mp isQuote with rfl | single
    · decide
    · rw [List.mem_singleton.mp single]
      decide
  rcases exists_char_of_getElem?_encode isByte ascii with ⟨front, c, rest, isText, place, same⟩
  refine ⟨front, rest, ?_, place⟩
  rw [isText, ← same, Char.ofNat_toNat]

theorem quote_of_mem_quoteBytes {b : UInt8} (isQuote : b ∈ quoteBytes) :
    Char.ofNat b.toNat = '\'' ∨ Char.ofNat b.toNat = '"' := by
  rcases List.mem_cons.mp isQuote with rfl | single
  · exact .inr rfl
  · rw [List.mem_singleton.mp single]
    exact .inl rfl

theorem length_encode_singleton_quote {b : UInt8} (isQuote : b ∈ quoteBytes) :
    (Utf8.encode [Char.ofNat b.toNat]).length = 1 := by
  rcases quote_of_mem_quoteBytes isQuote with isSingle | isDouble
  · rw [isSingle]
    decide
  · rw [isDouble]
    decide

/-- Of two texts with which a source starts, the one with more bytes goes on where the
other ends. -/
theorem prefix_of_length_encode_lt {front upTo source : List Char} {c : Char}
    (starts : front ++ [c] <+: source) (startsUpTo : upTo <+: source)
    (shorter : (Utf8.encode front).length < (Utf8.encode upTo).length) :
    front ++ [c] <+: upTo := by
  apply List.prefix_of_prefix_length_le starts startsUpTo
  rw [List.length_append, List.length_singleton]
  apply Nat.lt_of_not_le
  intro upToShorter
  have startsFront := (List.prefix_append front [c]).trans starts
  rcases List.prefix_of_prefix_length_le startsUpTo startsFront upToShorter with ⟨more, rfl⟩
  rw [Utf8.encode_append, List.length_append] at shorter
  exact absurd shorter (Nat.not_lt.mpr (Nat.le_add_right _ _))

/-- Where quotes enclose the bytes of a source, they enclose its characters. -/
theorem exists_quoted_of_isEnclosed {source : List Char} {start stop : Nat}
    (inText : stop ≤ (Utf8.encode source).length)
    (enclosed : isEnclosed (slice (Utf8.encode source) start stop) = true) :
    ∃ first last quote content, placeOf? source start = some first
      ∧ placeOf? source stop = some last ∧ (quote = '\'' ∨ quote = '"')
      ∧ slice source first last = quote :: (content ++ [quote]) := by
  rcases exists_quote_of_isEnclosed enclosed with ⟨b, isQuote, long, opens, closes⟩
  have length : (slice (Utf8.encode source) start stop).length = stop - start := by
    rw [length_slice, Nat.min_eq_left inText]
  rw [length] at long closes
  rw [getElem?_slice _ (by omega)] at opens closes
  have lastByte : start + (stop - start - 1) = stop - 1 := by omega
  rw [lastByte] at closes
  rcases exists_quote_of_getElem?_encode isQuote opens with ⟨front, rest, isFront, frontLength⟩
  rcases exists_quote_of_getElem?_encode isQuote closes with ⟨upTo, after, isUpTo, upToLength⟩
  have oneByte := length_encode_singleton_quote isQuote
  have isEither := quote_of_mem_quoteBytes isQuote
  generalize Char.ofNat b.toNat = quote at isFront isUpTo oneByte isEither
  have starts : front ++ [quote] <+: source := ⟨rest, by rw [isFront]; simp⟩
  have startsUpTo : upTo <+: source := ⟨quote :: after, isUpTo.symm⟩
  rcases prefix_of_length_encode_lt starts startsUpTo (by omega) with ⟨content, rfl⟩
  have isStart := placeOf?_append front (quote :: rest)
  rw [← isFront, frontLength, Nat.add_zero] at isStart
  have isStop := placeOf?_append ((front ++ [quote] ++ content) ++ [quote]) after
  rw [List.append_assoc, List.singleton_append, ← isUpTo, Utf8.encode_append, List.length_append,
    upToLength, oneByte, Nat.sub_add_cancel (by omega)] at isStop
  refine ⟨_, _, quote, content, isStart, isStop, isEither, ?_⟩
  have isSource : source = front ++ ((quote :: (content ++ [quote])) ++ after) := by
    rw [isUpTo]
    simp
  rw [isSource]
  apply slice_of_append rfl
  simp only [List.length_append, List.length_cons, List.length_nil]
  omega

end CodeGloss.Syntax
