import CodeGloss.Text.Hexadecimal

/-!
# UTF-8

Encoding of characters as bytes, and decoding that says where and why a byte
sequence is not UTF-8. A faulty sequence is reported at its first byte. Its
extent is the part that some character starts with; a sequence that the end of
the data cuts short is told apart from one that no character starts with.
-/

namespace CodeGloss.Text.Utf8

/-- The bytes of one character. -/
def encodeChar (c : Char) : List UInt8 :=
  let n := c.toNat
  if n < 0x80 then [n.toUInt8]
  else if n < 0x800 then [(0xC0 + n / 0x40).toUInt8, (0x80 + n % 0x40).toUInt8]
  else if n < 0x10000 then
    [(0xE0 + n / 0x1000).toUInt8, (0x80 + n / 0x40 % 0x40).toUInt8, (0x80 + n % 0x40).toUInt8]
  else
    [(0xF0 + n / 0x40000).toUInt8, (0x80 + n / 0x1000 % 0x40).toUInt8,
     (0x80 + n / 0x40 % 0x40).toUInt8, (0x80 + n % 0x40).toUInt8]

def encode (text : List Char) : List UInt8 :=
  text.flatMap encodeChar

/-- The number of bytes of one character. -/
def width (c : Char) : Nat :=
  if c.toNat < 0x80 then 1
  else if c.toNat < 0x800 then 2
  else if c.toNat < 0x10000 then 3
  else 4

@[simp]
theorem length_encodeChar (c : Char) : (encodeChar c).length = width c := by
  simp only [encodeChar, width]
  split
  · rfl
  · split
    · rfl
    · split <;> rfl

theorem width_pos (c : Char) : 0 < width c := by
  unfold width
  split
  · decide
  · split
    · decide
    · split <;> decide

@[simp]
theorem encode_nil : encode [] = [] :=
  rfl

@[simp]
theorem encode_cons (c : Char) (text : List Char) :
    encode (c :: text) = encodeChar c ++ encode text :=
  rfl

@[simp]
theorem encode_append (left right : List Char) :
    encode (left ++ right) = encode left ++ encode right := by
  simp [encode]

/-- Why a byte sequence is not UTF-8. -/
inductive Fault where
  /-- No character starts with this byte. -/
  | badStart
  /-- The byte after the good part does not continue the character. -/
  | badContinuation
  /-- The data ends inside the character. -/
  | cutShort
  deriving DecidableEq, Repr

def Fault.reason : Fault → String
  | .badStart => "invalid start byte"
  | .badContinuation => "invalid continuation byte"
  | .cutShort => "unexpected end of data"

/-- A fault with its place: the bytes from `start` to `stop` are at fault, and
`first` is the first of them. -/
structure DecodeError where
  start : Nat
  stop : Nat
  first : UInt8
  fault : Fault
  deriving DecidableEq, Repr

/-- One byte at fault is shown, several are counted by their places. -/
def DecodeError.message (e : DecodeError) : String :=
  let place :=
    if e.stop = e.start + 1 then s!"byte 0x{String.ofList (hexDigits 2 e.first.toNat)} in position {e.start}"
    else s!"bytes in position {e.start}-{e.stop - 1}"
  s!"'utf-8' codec can't decode {place}: {e.fault.reason}"

/-- The first continuation byte after a start byte lies in a range of its own,
and a start byte fixes how many continuation bytes follow. -/
structure Start where
  bits : Nat
  tails : Nat
  low : Nat
  high : Nat

/-- What a start byte announces, if a character of several bytes starts with it. -/
def start? (b : Nat) : Option Start :=
  if 0xC2 ≤ b ∧ b ≤ 0xDF then some ⟨b - 0xC0, 1, 0x80, 0xBF⟩
  else if b = 0xE0 then some ⟨0, 2, 0xA0, 0xBF⟩
  else if b = 0xED then some ⟨0xD, 2, 0x80, 0x9F⟩
  else if 0xE1 ≤ b ∧ b ≤ 0xEF then some ⟨b - 0xE0, 2, 0x80, 0xBF⟩
  else if b = 0xF0 then some ⟨0, 3, 0x90, 0xBF⟩
  else if b = 0xF4 then some ⟨4, 3, 0x80, 0x8F⟩
  else if 0xF1 ≤ b ∧ b ≤ 0xF3 then some ⟨b - 0xF0, 3, 0x80, 0xBF⟩
  else none

/-- The outcome of reading continuation bytes: the code point, or the number of
good ones and the fault after them. -/
def readTails (bits low high good : Nat) : Nat → List UInt8 → Except (Nat × Fault) Nat
  | 0, _ => .ok bits
  | _ + 1, [] => .error (good, .cutShort)
  | tails + 1, b :: rest =>
      if low ≤ b.toNat ∧ b.toNat ≤ high then
        readTails (bits * 0x40 + (b.toNat - 0x80)) 0x80 0xBF (good + 1) tails rest
      else .error (good, .badContinuation)

/-- The first character of `bytes` and the number of its bytes. -/
def decodeChar? (place : Nat) : List UInt8 → Except DecodeError (Char × Nat)
  | [] => .error ⟨place, place, 0, .cutShort⟩
  | b :: rest =>
      if b.toNat < 0x80 then .ok (Char.ofNat b.toNat, 1)
      else
        match start? b.toNat with
        | none => .error ⟨place, place + 1, b, .badStart⟩
        | some s =>
            match readTails s.bits s.low s.high 0 s.tails rest with
            | .ok code => .ok (Char.ofNat code, s.tails + 1)
            | .error (good, fault) => .error ⟨place, place + 1 + good, b, fault⟩

/-- Decode from the byte at place `place` on: the characters before the first
fault, and the fault. -/
def decodeFrom (place : Nat) (bytes : List UInt8) : List Char × Option DecodeError :=
  match bytes with
  | [] => ([], none)
  | b :: rest =>
      match decodeChar? place (b :: rest) with
      | .error e => ([], some e)
      | .ok (c, used) =>
          let (text, fault) := decodeFrom (place + used) (rest.drop (used - 1))
          (c :: text, fault)
termination_by bytes.length
decreasing_by simp only [List.length_drop, List.length_cons]; omega

/-- The text of a byte sequence, or its first fault. -/
def decode (bytes : List UInt8) : Except DecodeError (List Char) :=
  match decodeFrom 0 bytes with
  | (text, none) => .ok text
  | (_, some e) => .error e

end CodeGloss.Text.Utf8
