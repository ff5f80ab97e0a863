import CodeGloss.Text.Utf8

/-!
# Reading what was written in UTF-8

The bytes of a text are read as the text. The first byte of a character says how
many tails follow, and which range the first of them lies in; each tail has six
bits of the number.
-/

namespace CodeGloss.Text.Utf8

theorem toNat_toUInt8 {n : Nat} (small : n < 0x100) : n.toUInt8.toNat = n := by
  simpa using Nat.mod_eq_of_lt small

/-- No character has the number of a half of a pair. -/
theorem toNat_cases (c : Char) : c.toNat < 0xD800 ∨ 0xDFFF < c.toNat ∧ c.toNat < 0x110000 :=
  c.valid

/-! ## First bytes -/

section Starts

variable {n : Nat}

theorem start?_two (above : 0x80 ≤ n) (below : n < 0x800) :
    start? (0xC0 + n / 0x40) = some ⟨n / 0x40, 1, 0x80, 0xBF⟩ := by
  rw [start?, if_pos (by omega), Nat.add_sub_cancel_left]

theorem exists_start?_three (above : 0x800 ≤ n) (below : n < 0x10000)
    (whole : n < 0xD800 ∨ 0xDFFF < n) :
    ∃ low high, start? (0xE0 + n / 0x1000) = some ⟨n / 0x1000, 2, low, high⟩
      ∧ low ≤ 0x80 + n / 0x40 % 0x40 ∧ 0x80 + n / 0x40 % 0x40 ≤ high := by
  unfold start?
  rw [if_neg (by omega)]
  by_cases zero : n / 0x1000 = 0
  · rw [zero]
    exact ⟨0xA0, 0xBF, rfl, by omega, by omega⟩
  · rw [if_neg (by omega)]
    by_cases last : n / 0x1000 = 0xD
    · rw [last]
      exact ⟨0x80, 0x9F, rfl, by omega, by omega⟩
    · rw [if_neg (by omega), if_pos (by omega), Nat.add_sub_cancel_left]
      exact ⟨0x80, 0xBF, rfl, by omega, by omega⟩

theorem exists_start?_four (above : 0x10000 ≤ n) (below : n < 0x110000) :
    ∃ low high, start? (0xF0 + n / 0x40000) = some ⟨n / 0x40000, 3, low, high⟩
      ∧ low ≤ 0x80 + n / 0x1000 % 0x40 ∧ 0x80 + n / 0x1000 % 0x40 ≤ high := by
  unfold start?
  rw [if_neg (by omega), if_neg (by omega), if_neg (by omega), if_neg (by omega)]
  by_cases zero : n / 0x40000 = 0
  · rw [zero]
    exact ⟨0x90, 0xBF, rfl, by omega, by omega⟩
  · rw [if_neg (by omega)]
    by_cases last : n / 0x40000 = 4
    · rw [last]
      exact ⟨0x80, 0x8F, rfl, by omega, by omega⟩
    · rw [if_neg (by omega), if_pos (by omega), Nat.add_sub_cancel_left]
      exact ⟨0x80, 0xBF, rfl, by omega, by omega⟩

end Starts

/-! ## Characters -/

/-- A tail has the next six bits. -/
theorem readTails_cons {bits low high good tails n : Nat} {rest : List UInt8}
    (above : low ≤ 0x80 + n % 0x40) (below : 0x80 + n % 0x40 ≤ high) :
    readTails bits low high good (tails + 1) ((0x80 + n % 0x40).toUInt8 :: rest) =
      readTails (bits * 0x40 + n % 0x40) 0x80 0xBF (good + 1) tails rest := by
  have isTail : (0x80 + n % 0x40).toUInt8.toNat = 0x80 + n % 0x40 := toNat_toUInt8 (by omega)
  rw [readTails, isTail, if_pos ⟨above, below⟩, Nat.add_sub_cancel_left]

/-- A later tail may be any. -/
theorem readTails_cons_any {bits good tails n : Nat} {rest : List UInt8} :
    readTails bits 0x80 0xBF good (tails + 1) ((0x80 + n % 0x40).toUInt8 :: rest) =
      readTails (bits * 0x40 + n % 0x40) 0x80 0xBF (good + 1) tails rest :=
  readTails_cons (by omega) (by omega)

theorem decodeChar?_cons {place b : Nat} {s : Start} {code : Nat} {rest : List UInt8}
    (isByte : b < 0x100) (long : 0x80 ≤ b) (starts : start? b = some s)
    (tails : readTails s.bits s.low s.high 0 s.tails rest = .ok code) :
    decodeChar? place (b.toUInt8 :: rest) = .ok (Char.ofNat code, s.tails + 1) := by
  rw [decodeChar?, toNat_toUInt8 isByte, if_neg (by omega), starts]
  simp only [tails]

/-- The first character is read whatever follows it. -/
theorem decodeChar?_encodeChar (place : Nat) (c : Char) (rest : List UInt8) :
    decodeChar? place (encodeChar c ++ rest) = .ok (c, width c) := by
  have whole := toNat_cases c
  unfold encodeChar width
  dsimp only
  by_cases one : c.toNat < 0x80
  · rw [if_pos one, if_pos one, List.singleton_append, decodeChar?, toNat_toUInt8 (by omega),
      if_pos one, Char.ofNat_toNat]
  rw [if_neg one, if_neg one]
  by_cases two : c.toNat < 0x800
  · rw [if_pos two, if_pos two, List.cons_append]
    have code : c.toNat / 0x40 * 0x40 + c.toNat % 0x40 = c.toNat := by omega
    have tails : readTails (c.toNat / 0x40) 0x80 0xBF 0 1
        ([(0x80 + c.toNat % 0x40).toUInt8] ++ rest) = .ok c.toNat := by
      rw [List.singleton_append, readTails_cons_any, readTails, code]
    rw [decodeChar?_cons (by omega) (by omega) (start?_two (by omega) two) tails, Char.ofNat_toNat]
  rw [if_neg two, if_neg two]
  by_cases three : c.toNat < 0x10000
  · rw [if_pos three, if_pos three, List.cons_append]
    obtain ⟨low, high, starts, above, below⟩ :=
      exists_start?_three (by omega) three (by omega)
    have code : (c.toNat / 0x1000 * 0x40 + c.toNat / 0x40 % 0x40) * 0x40 + c.toNat % 0x40 =
        c.toNat := by omega
    have tails : readTails (c.toNat / 0x1000) low high 0 2
        ([(0x80 + c.toNat / 0x40 % 0x40).toUInt8, (0x80 + c.toNat % 0x40).toUInt8] ++ rest) =
          .ok c.toNat := by
      rw [List.cons_append, readTails_cons above below, List.singleton_append, readTails_cons_any,
        readTails, code]
    rw [decodeChar?_cons (by omega) (by omega) starts tails, Char.ofNat_toNat]
  · rw [if_neg three, if_neg three, List.cons_append]
    obtain ⟨low, high, starts, above, below⟩ :=
      exists_start?_four (n := c.toNat) (by omega) (by omega)
    have code : ((c.toNat / 0x40000 * 0x40 + c.toNat / 0x1000 % 0x40) * 0x40
        + c.toNat / 0x40 % 0x40) * 0x40 + c.toNat % 0x40 = c.toNat := by omega
    have tails : readTails (c.toNat / 0x40000) low high 0 3
        ([(0x80 + c.toNat / 0x1000 % 0x40).toUInt8, (0x80 + c.toNat / 0x40 % 0x40).toUInt8,
          (0x80 + c.toNat % 0x40).toUInt8] ++ rest) = .ok c.toNat := by
      rw [List.cons_append, readTails_cons above below, List.cons_append, readTails_cons_any,
        List.singleton_append, readTails_cons_any, readTails, code]
    rw [decodeChar?_cons (by omega) (by omega) starts tails, Char.ofNat_toNat]

/-! ## What is read -/

/-- What a first byte says: its bits of the number, how many tails follow, and the range of the
first of them, which leaves out what fewer bytes say and what no character is. -/
inductive Announces : Nat → Start → Prop
  | two (bits : Nat) (above : 2 ≤ bits) (below : bits < 0x20) :
      Announces (0xC0 + bits) ⟨bits, 1, 0x80, 0xBF⟩
  | three (bits low high : Nat) (below : bits < 0x10) (isTail : 0x80 ≤ low ∧ high ≤ 0xBF)
      (long : bits = 0 → low = 0xA0) (whole : bits = 0xD → high = 0x9F) :
      Announces (0xE0 + bits) ⟨bits, 2, low, high⟩
  | four (bits low high : Nat) (below : bits < 5) (isTail : 0x80 ≤ low ∧ high ≤ 0xBF)
      (long : bits = 0 → low = 0x90) (bounded : bits = 4 → high = 0x8F) :
      Announces (0xF0 + bits) ⟨bits, 3, low, high⟩

theorem announces_of_start? {b : Nat} {s : Start} (starts : start? b = some s) : Announces b s := by
  unfold start? at starts
  split at starts
  · obtain ⟨bits, rfl⟩ := Nat.exists_eq_add_of_le (show 0xC0 ≤ b by omega)
    rw [Nat.add_sub_cancel_left] at starts
    cases starts
    exact .two bits (by omega) (by omega)
  split at starts
  · next first =>
    subst first
    cases starts
    exact .three 0 0xA0 0xBF (by decide) (by decide) (fun _ => rfl) (by decide)
  split at starts
  · next last =>
    subst last
    cases starts
    exact .three 0xD 0x80 0x9F (by decide) (by decide) (by decide) (fun _ => rfl)
  split at starts
  · obtain ⟨bits, rfl⟩ := Nat.exists_eq_add_of_le (show 0xE0 ≤ b by omega)
    rw [Nat.add_sub_cancel_left] at starts
    cases starts
    exact .three bits 0x80 0xBF (by omega) (by decide) (by omega) (by omega)
  split at starts
  · next first =>
    subst first
    cases starts
    exact .four 0 0x90 0xBF (by decide) (by decide) (fun _ => rfl) (by decide)
  split at starts
  · next last =>
    subst last
    cases starts
    exact .four 4 0x80 0x8F (by decide) (by decide) (by decide) (fun _ => rfl)
  split at starts
  · obtain ⟨bits, rfl⟩ := Nat.exists_eq_add_of_le (show 0xF0 ≤ b by omega)
    rw [Nat.add_sub_cancel_left] at starts
    cases starts
    exact .four bits 0x80 0xBF (by omega) (by decide) (by omega) (by omega)
  · contradiction

theorem exists_tail_of_readTails {bits low high good tails code : Nat} {bytes : List UInt8}
    (isTail : 0x80 ≤ low ∧ high ≤ 0xBF)
    (reads : readTails bits low high good (tails + 1) bytes = .ok code) :
    ∃ n rest, n < 0x40 ∧ low ≤ 0x80 + n ∧ 0x80 + n ≤ high ∧ bytes = (0x80 + n).toUInt8 :: rest
      ∧ readTails (bits * 0x40 + n) 0x80 0xBF (good + 1) tails rest = .ok code := by
  cases bytes with
  | nil => contradiction
  | cons b rest =>
      rw [readTails] at reads
      split at reads
      · next inRange =>
        refine ⟨b.toNat - 0x80, rest, by omega, by omega, by omega, ?_, reads⟩
        rw [Nat.add_sub_cancel' (by omega)]
        simp
      · contradiction

theorem toNat_ofNat {n : Nat} (valid : n < 0xD800 ∨ 0xDFFF < n ∧ n < 0x110000) :
    (Char.ofNat n).toNat = n := by
  rw [Char.ofNat, dif_pos valid]
  rfl

theorem eq_toUInt8 {b : UInt8} {n : Nat} (same : b.toNat = n) : b = n.toUInt8 := by
  rw [← same]
  simp

section Bytes

variable {bits x y z : Nat} (smallX : x < 0x40) (smallY : y < 0x40) (smallZ : z < 0x40)

theorem encodeChar_ofNat_one {n : Nat} (small : n < 0x80) :
    encodeChar (Char.ofNat n) = [n.toUInt8] := by
  rw [encodeChar, toNat_ofNat (by omega)]
  exact if_pos small

include smallX in
theorem encodeChar_ofNat_two (above : 2 ≤ bits) (below : bits < 0x20) :
    encodeChar (Char.ofNat (bits * 0x40 + x)) = [(0xC0 + bits).toUInt8, (0x80 + x).toUInt8] := by
  have shown : (bits * 0x40 + x) / 0x40 = bits ∧ (bits * 0x40 + x) % 0x40 = x := by omega
  rw [encodeChar, toNat_ofNat (by omega)]
  rw [if_neg (by omega), if_pos (by omega), shown.1, shown.2]

include smallX smallY in
theorem encodeChar_ofNat_three (below : bits < 0x10) (long : bits = 0 → 0x20 ≤ x)
    (whole : bits = 0xD → x < 0x20) :
    encodeChar (Char.ofNat ((bits * 0x40 + x) * 0x40 + y)) =
      [(0xE0 + bits).toUInt8, (0x80 + x).toUInt8, (0x80 + y).toUInt8] := by
  generalize number : (bits * 0x40 + x) * 0x40 + y = n
  have shown : n / 0x1000 = bits ∧ n / 0x40 % 0x40 = x ∧ n % 0x40 = y := by omega
  have long : 0x800 ≤ n := by
    by_cases zero : bits = 0
    · have := long zero
      omega
    · omega
  have whole : n < 0xD800 ∨ 0xDFFF < n := by
    by_cases last : bits = 0xD
    · have := whole last
      omega
    · omega
  rw [encodeChar, toNat_ofNat (by omega)]
  rw [if_neg (by omega), if_neg (by omega), if_pos (by omega), shown.1, shown.2.1, shown.2.2]

include smallX smallY smallZ in
theorem encodeChar_ofNat_four (below : bits < 5) (long : bits = 0 → 0x10 ≤ x)
    (bounded : bits = 4 → x < 0x10) :
    encodeChar (Char.ofNat (((bits * 0x40 + x) * 0x40 + y) * 0x40 + z)) =
      [(0xF0 + bits).toUInt8, (0x80 + x).toUInt8, (0x80 + y).toUInt8, (0x80 + z).toUInt8] := by
  generalize number : ((bits * 0x40 + x) * 0x40 + y) * 0x40 + z = n
  have shown : n / 0x40000 = bits ∧ n / 0x1000 % 0x40 = x ∧ n / 0x40 % 0x40 = y ∧ n % 0x40 = z := by
    omega
  have long : 0x10000 ≤ n := by
    by_cases zero : bits = 0
    · have := long zero
      omega
    · omega
  have bounded : n < 0x110000 := by
    by_cases last : bits = 4
    · have := bounded last
      omega
    · omega
  rw [encodeChar, toNat_ofNat (by omega)]
  rw [if_neg (by omega), if_neg (by omega), if_neg (by omega), shown.1, shown.2.1, shown.2.2.1,
    shown.2.2.2]

end Bytes

/-- The bytes of a character that was read are its encoding. -/
theorem eq_encodeChar_of_decodeChar? {place : Nat} {b : UInt8} {rest : List UInt8} {c : Char}
    {used : Nat} (reads : decodeChar? place (b :: rest) = .ok (c, used)) :
    b :: rest.take (used - 1) = encodeChar c := by
  have anyTail : 0x80 ≤ 0x80 ∧ 0xBF ≤ 0xBF := ⟨Nat.le_refl _, Nat.le_refl _⟩
  rw [decodeChar?] at reads
  split at reads
  · next one =>
    cases reads
    rw [encodeChar_ofNat_one one, ← eq_toUInt8 rfl]
    rfl
  · split at reads
    · contradiction
    · next s starts =>
      split at reads
      · next code tails =>
        cases reads
        have announces := announces_of_start? starts
        generalize first : b.toNat = n at announces
        rw [eq_toUInt8 first]
        cases announces with
        | two bits above below =>
            obtain ⟨x, rest, smallX, _, _, rfl, done⟩ := exists_tail_of_readTails anyTail tails
            cases done
            exact (encodeChar_ofNat_two smallX above below).symm
        | three bits low high below isTail long whole =>
            obtain ⟨x, rest, smallX, aboveX, belowX, rfl, one⟩ :=
              exists_tail_of_readTails isTail tails
            obtain ⟨y, rest, smallY, _, _, rfl, done⟩ := exists_tail_of_readTails anyTail one
            cases done
            apply (encodeChar_ofNat_three smallX smallY below _ _).symm
            · intro zero
              rw [long zero] at aboveX
              omega
            · intro last
              rw [whole last] at belowX
              omega
        | four bits low high below isTail long bounded =>
            obtain ⟨x, rest, smallX, aboveX, belowX, rfl, two⟩ :=
              exists_tail_of_readTails isTail tails
            obtain ⟨y, rest, smallY, _, _, rfl, one⟩ := exists_tail_of_readTails anyTail two
            obtain ⟨z, rest, smallZ, _, _, rfl, done⟩ := exists_tail_of_readTails anyTail one
            cases done
            apply (encodeChar_ofNat_four smallX smallY smallZ below _ _).symm
            · intro zero
              rw [long zero] at aboveX
              omega
            · intro last
              rw [bounded last] at belowX
              omega
      · contradiction

/-! ## Texts -/

theorem decodeFrom_cons {place : Nat} {b : UInt8} {rest : List UInt8} {c : Char} {used : Nat}
    (reads : decodeChar? place (b :: rest) = .ok (c, used)) :
    decodeFrom place (b :: rest) =
      (c :: (decodeFrom (place + used) (rest.drop (used - 1))).1,
        (decodeFrom (place + used) (rest.drop (used - 1))).2) := by
  rw [decodeFrom, reads]

theorem exists_encodeChar_eq_cons (c : Char) :
    ∃ b tails, encodeChar c = b :: tails ∧ tails.length = width c - 1 := by
  have long := length_encodeChar c
  cases bytes : encodeChar c with
  | nil =>
      rw [bytes, List.length_nil] at long
      exact absurd long (Nat.ne_of_lt (width_pos c))
  | cons b tails =>
      rw [bytes, List.length_cons] at long
      exact ⟨b, tails, rfl, by omega⟩

theorem decodeFrom_encode (place : Nat) (text : List Char) :
    decodeFrom place (encode text) = (text, none) := by
  induction text generalizing place with
  | nil => rw [encode_nil, decodeFrom]
  | cons c text ih =>
      obtain ⟨b, tails, bytes, long⟩ := exists_encodeChar_eq_cons c
      have reads := decodeChar?_encodeChar place c (encode text)
      rw [bytes, List.cons_append] at reads
      rw [encode_cons, bytes, List.cons_append, decodeFrom_cons reads, ← long, List.drop_left, ih]

theorem eq_encode_of_decodeFrom {place : Nat} {bytes : List UInt8} {text : List Char}
    (reads : decodeFrom place bytes = (text, none)) : bytes = encode text := by
  fun_induction decodeFrom place bytes generalizing text with
  | case1 place =>
      cases reads
      rfl
  | case2 place b rest e fails => cases reads
  | case3 place b rest c used readsChar more fault readsRest ih =>
      rw [Prod.mk.injEq] at reads
      obtain ⟨rfl, rfl⟩ := reads
      rw [encode_cons, ← ih readsRest, ← eq_encodeChar_of_decodeChar? readsChar, List.cons_append,
        List.take_append_drop]

/-- The bytes of a text are read as this text and no others are. -/
theorem decode_eq_ok_iff {bytes : List UInt8} {text : List Char} :
    decode bytes = .ok text ↔ bytes = encode text := by
  constructor
  · intro reads
    rw [decode] at reads
    split at reads
    · next readsAll =>
      cases reads
      exact eq_encode_of_decodeFrom readsAll
    · contradiction
  · rintro rfl
    rw [decode, decodeFrom_encode]

/-- What was encoded is decoded. -/
@[simp]
theorem decode_encode (text : List Char) : decode (encode text) = .ok text :=
  decode_eq_ok_iff.mpr rfl

@[simp]
theorem encode_inj {text other : List Char} : encode text = encode other ↔ text = other := by
  rw [← decode_eq_ok_iff, decode_encode, Except.ok.injEq]

end CodeGloss.Text.Utf8
