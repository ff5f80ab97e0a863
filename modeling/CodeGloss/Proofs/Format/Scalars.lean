import CodeGloss.Format.Json.Decode
import CodeGloss.Format.Json.Encode
import Mathlib.Data.List.TakeDrop

/-!
# Written texts and numbers

What is written for a text or a whole number is read back, whatever stands behind
it. A text ends at its own quote. A number does not say where it ends, so what stands
behind it must not go on with it.
-/

namespace CodeGloss.Format.Json

/-! ## Texts -/

/-- Four digits are read as the number they were written for. -/
theorem readString_hexDigits (start : Nat) (high : Option Nat) (place : Nat) {code : Nat}
    (small : code < 0x10000) {rest : List Char} (continues : rest ≠ []) :
    readString start (.number high place 4 0) (Text.hexDigits 4 code ++ rest) =
      prepend (numbered high code).1
        (readString start (.plain (numbered high code).2) rest) := by
  have written : Text.hexDigits 4 code =
      [Nat.digitChar (code / 4096 % 16), Nat.digitChar (code / 256 % 16),
        Nat.digitChar (code / 16 % 16), Nat.digitChar (code % 16)] := by
    simp [Text.hexDigits, List.range_succ]
  have value : ((code / 4096 % 16 * 16 + code / 256 % 16) * 16 + code / 16 % 16) * 16
      + code % 16 = code := by omega
  have digit (n : Nat) : Text.hexValue? (Nat.digitChar (n % 16)) = some (n % 16) :=
    Text.hexValue?_digitChar (Nat.mod_lt n (by decide))
  have isFilled : rest.isEmpty = false := by simpa using continues
  simp only [written, List.cons_append, List.nil_append, readString, digit]
  simp [value, isFilled]

/-- A written character is read back, and the reader is where it was before. -/
theorem readString_escapeLetter (start : Nat) (c : Char) {rest : List Char}
    (continues : rest ≠ []) :
    readString start (.plain none) (escapeLetter c ++ rest) =
      prepend [c] (readString start (.plain none) rest) := by
  unfold escapeLetter
  split
  · next isQuote =>
    subst isQuote
    rfl
  split
  · next isBackslash =>
    subst isBackslash
    rfl
  split
  · next isBreak =>
    subst isBreak
    rfl
  split
  · next isReturn =>
    subst isReturn
    rfl
  split
  · next isTab =>
    subst isTab
    rfl
  split
  · next isBackspace =>
    subst isBackspace
    rfl
  split
  · next isFeed =>
    subst isFeed
    rfl
  split
  · next isControl =>
    have opens : readString start (.plain none)
          (['\\', 'u'] ++ Text.hexDigits 4 c.toNat ++ rest) =
        readString start (.number none ((Text.hexDigits 4 c.toNat ++ rest).length + 1) 4 0)
          (Text.hexDigits 4 c.toNat ++ rest) := rfl
    have stands : numbered none c.toNat = ([c], none) := by
      have noHigh : ¬ (0xD800 ≤ c.toNat ∧ c.toNat < 0xDC00) := by omega
      have noLow : ¬ (0xDC00 ≤ c.toNat ∧ c.toNat < 0xE000) := by omega
      rw [numbered, if_neg noHigh, if_neg noLow, Char.ofNat_toNat]
      rfl
    rw [opens, readString_hexDigits start none _ (by omega) continues, stands]
  · next noQuote noBackslash _ _ _ _ _ noControl =>
    rw [List.singleton_append, readString, if_neg noQuote, if_neg noBackslash, if_neg noControl]
    rfl

/-- What was written for a text is read up to the closing quote. -/
theorem readString_written (start : Nat) (content rest : List Char) :
    readString start (.plain none) (content.flatMap escapeLetter ++ '"' :: rest) =
      .ok (content, rest) := by
  induction content with
  | nil => rfl
  | cons c content ih =>
      rw [List.flatMap_cons, List.append_assoc, readString_escapeLetter start c (by simp), ih]
      rfl

/-! ## Numbers -/

/-- The text does not go on with a number. -/
def EndsNumber (text : List Char) : Prop :=
  ∀ c ∈ text.head?, c.isDigit = false ∧ c ≠ '.' ∧ c ≠ 'e' ∧ c ≠ 'E'

theorem endsNumber_nil : EndsNumber [] :=
  nofun

theorem endsNumber_cons {c : Char} {rest : List Char} (noDigit : c.isDigit = false)
    (noMark : c ≠ '.' ∧ c ≠ 'e' ∧ c ≠ 'E') : EndsNumber (c :: rest) := by
  intro head isHead
  cases isHead
  exact ⟨noDigit, noMark⟩

section Numbers

variable {rest : List Char}

theorem EndsNumber.span_isDigit (ends : EndsNumber rest) {digits : List Char}
    (areDigits : ∀ c ∈ digits, c.isDigit = true) :
    (digits ++ rest).span Char.isDigit = (digits, rest) := by
  have stops : rest.takeWhile Char.isDigit = [] ∧ rest.dropWhile Char.isDigit = rest := by
    cases rest with
    | nil => exact ⟨rfl, rfl⟩
    | cons c rest =>
        have noDigit := (ends c rfl).1
        simp [noDigit]
  rw [List.span_eq_takeWhile_dropWhile, List.takeWhile_append_of_pos areDigits,
    List.dropWhile_append_of_pos areDigits, stops.1, stops.2, List.append_nil]

theorem EndsNumber.readFraction_eq (ends : EndsNumber rest) : readFraction rest = ([], rest) := by
  cases rest with
  | nil => rfl
  | cons c rest =>
      have noPoint := (ends c rfl).2.1
      unfold readFraction
      split
      · next starts => exact absurd (List.cons.inj starts).1 noPoint
      · rfl

theorem EndsNumber.readExponent_eq (ends : EndsNumber rest) : readExponent rest = (none, rest) := by
  cases rest with
  | nil => rfl
  | cons c rest =>
      have noLetter : ¬ (c = 'e' ∨ c = 'E') := not_or.mpr (ends c rfl).2.2
      unfold readExponent
      exact if_neg noLetter

theorem digitsValue_toDigits (n : Nat) : digitsValue (Nat.toDigits 10 n) = n := by
  have value := Nat.ofDigitChars_ten_toDigits (n := n)
  rw [Nat.ofDigitChars_eq_foldl] at value
  simpa only [digitsValue, Nat.mul_comm] using value

/-- Only zero is written with a zero in front. -/
theorem exists_toDigits_eq_cons (n : Nat) :
    ∃ c digits, Nat.toDigits 10 n = c :: digits ∧ c.isDigit = true ∧ (c = '0' → n = 0) := by
  induction n using Nat.strongRecOn with
  | ind n ih =>
      by_cases small : n < 10
      · refine ⟨Nat.digitChar n, [], Nat.toDigits_of_lt_base small, ?_, Nat.digitChar_eq_zero.mp⟩
        rw [Nat.isDigit_digitChar, decide_eq_true_eq]
        exact small
      · rcases ih (n / 10) (by omega) with ⟨c, digits, isWritten, isDigit, zero⟩
        have longer : Nat.toDigits 10 n = c :: (digits ++ [Nat.digitChar (n % 10)]) := by
          rw [Nat.toDigits_of_base_le (by decide) (by omega), isWritten, List.cons_append]
        exact ⟨c, _, longer, isDigit, fun isZero => absurd (zero isZero) (by omega)⟩

theorem EndsNumber.readWhole_toDigits (ends : EndsNumber rest) (n : Nat) :
    readWhole (Nat.toDigits 10 n ++ rest) = (Nat.toDigits 10 n, rest) := by
  rcases exists_toDigits_eq_cons n with ⟨c, digits, isWritten, _, zero⟩
  by_cases leading : c = '0'
  · rw [zero leading, Nat.toDigits_zero]
    rfl
  · have areDigits : ∀ d ∈ Nat.toDigits 10 n, d.isDigit = true :=
      fun d member => Nat.isDigit_of_mem_toDigits (by decide) (by decide) member
    have noZero : readWhole (Nat.toDigits 10 n ++ rest) =
        (Nat.toDigits 10 n ++ rest).span Char.isDigit := by
      rw [isWritten]
      unfold readWhole
      split
      · next starts => exact absurd (List.cons.inj starts).1 leading
      · rfl
    rw [noZero, ends.span_isDigit areDigits]

/-- A whole number is written with its sign and its digits. -/
theorem toList_toString_int (number : Int) :
    (toString number).toList =
      if number < 0 then '-' :: Nat.toDigits 10 number.natAbs
      else Nat.toDigits 10 number.natAbs := by
  cases number with
  | ofNat n =>
      rw [if_neg (by simp)]
      exact Nat.toList_repr
  | negSucc n =>
      have isWritten : toString (Int.negSucc n) = "-" ++ Nat.repr (n + 1) := rfl
      rw [if_pos (Int.negSucc_lt_zero n), isWritten, String.toList_append, Nat.toList_repr]
      rfl

/-- What was written for a whole number of few enough digits is read as this number. -/
theorem EndsNumber.readNumber_written (ends : EndsNumber rest) {number : Int}
    (short : (Nat.toDigits 10 number.natAbs).length ≤ digitLimit) :
    readNumber ((toString number).toList ++ rest) = .ok (.int number, rest) := by
  have reads := ends.readWhole_toDigits number.natAbs
  have value := digitsValue_toDigits number.natAbs
  rcases exists_toDigits_eq_cons number.natAbs with ⟨c, digits, isWritten, isDigit, _⟩
  rw [toList_toString_int]
  rw [isWritten, List.cons_append] at reads
  rw [isWritten] at value short ⊢
  have inLimit : ¬ digitLimit < (c :: digits).length := Nat.not_lt.mpr short
  have noSign : c ≠ '-' := by
    rintro rfl
    contradiction
  split
  · have signed : -(number.natAbs : Int) = number := by omega
    simp only [readNumber, List.cons_append, reads, ends.readFraction_eq, ends.readExponent_eq,
      if_neg inLimit, value, if_true, signed]
  · have unsigned : (number.natAbs : Int) = number := by omega
    rw [List.cons_append, readNumber]
    · simp only [reads, ends.readFraction_eq, ends.readExponent_eq, if_neg inLimit, value,
        Bool.false_eq_true, if_false, unsigned]
    · exact fun _ signed => noSign (List.cons.inj signed).1

end Numbers

end CodeGloss.Format.Json
