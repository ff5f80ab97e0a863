import CodeGloss.Text.Utf8

/-!
# Finding the encoding of a text

Bytes may hold a text in UTF-8, UTF-16 or UTF-32. A byte order mark names the
encoding. Without one, the zero bytes among the first four tell it, because the
text is expected to start with ASCII characters. In each of them a half of a pair
may stand alone, and stands for nothing that text can hold.
-/

namespace CodeGloss.Text

inductive Encoding where
  | utf8
  | utf16 (bigEndian : Bool)
  | utf32 (bigEndian : Bool)
  deriving DecidableEq, Repr

namespace Encoding

/-- The encoding that a byte order mark names, and the bytes after the mark. -/
def ofMark? : List UInt8 → Option (Encoding × List UInt8)
  | 0x00 :: 0x00 :: 0xFE :: 0xFF :: rest => some (utf32 true, rest)
  | 0xFF :: 0xFE :: 0x00 :: 0x00 :: rest => some (utf32 false, rest)
  | 0xFE :: 0xFF :: rest => some (utf16 true, rest)
  | 0xFF :: 0xFE :: rest => some (utf16 false, rest)
  | 0xEF :: 0xBB :: 0xBF :: rest => some (utf8, rest)
  | _ => none

/-- The encoding that the zero bytes at the start tell. -/
def ofZeros : List UInt8 → Encoding
  | a :: b :: c :: d :: _ =>
      if a = 0 then if b = 0 then utf32 true else utf16 true
      else if b = 0 then if c = 0 ∧ d = 0 then utf32 false else utf16 false
      else utf8
  | [a, b] => if a = 0 then utf16 true else if b = 0 then utf16 false else utf8
  | _ => utf8

/-- The number that two or four bytes stand for. -/
def number (bigEndian : Bool) (bytes : List UInt8) : Nat :=
  (if bigEndian then bytes else bytes.reverse).foldl (fun n b => n * 0x100 + b.toNat) 0

/-- The numbers in groups of `size + 1` bytes; nothing if a group is cut short. -/
def numbers? (bigEndian : Bool) (size : Nat) (bytes : List UInt8) : Option (List Nat) :=
  match bytes with
  | [] => some []
  | b :: rest =>
      if rest.length < size then none
      else
        (numbers? bigEndian size (rest.drop size)).map fun more =>
          number bigEndian (b :: rest.take size) :: more
termination_by bytes.length
decreasing_by simp only [List.length_drop, List.length_cons]; omega

/-- Put the halves of pairs together. -/
def joinPairs : List Nat → List Nat
  | [] => []
  | [unit] => [unit]
  | high :: low :: rest =>
      if 0xD800 ≤ high ∧ high < 0xDC00 ∧ 0xDC00 ≤ low ∧ low < 0xE000 then
        (0x10000 + (high - 0xD800) * 0x400 + (low - 0xDC00)) :: joinPairs rest
      else high :: joinPairs (low :: rest)

/-- The character of a code point. A half without its other half stands for
nothing that text can hold. -/
def character (code : Nat) : Char :=
  if 0xD800 ≤ code ∧ code < 0xE000 then '\ufffd' else Char.ofNat code

/-- The text of UTF-8 bytes. A half without its other half, which is no character, may be written
in three bytes as a character is. -/
def decodeUtf8? (bytes : List UInt8) : Option (List Char) :=
  match Utf8.decodeFrom 0 bytes with
  | (text, none) => some text
  | (text, some fault) =>
      match _ : bytes.drop fault.start with
      | first :: second :: third :: rest =>
          if first = 0xED ∧ 0xA0 ≤ second ∧ second ≤ 0xBF ∧ 0x80 ≤ third ∧ third ≤ 0xBF then
            (decodeUtf8? rest).map fun later => text ++ '\ufffd' :: later
          else none
      | _ => none
termination_by bytes.length
decreasing_by
  have shorter := congrArg List.length ‹bytes.drop fault.start = _›
  simp only [List.length_drop, List.length_cons] at shorter
  omega

/-- The text that bytes in an encoding hold. -/
def decode? (bytes : List UInt8) : Encoding → Option (List Char)
  | utf8 => decodeUtf8? bytes
  | utf16 bigEndian => (numbers? bigEndian 1 bytes).map fun units => (joinPairs units).map character
  | utf32 bigEndian =>
      (numbers? bigEndian 3 bytes).bind fun codes =>
        if codes.all (· < 0x110000) then some (codes.map character) else none

end Encoding

/-- The text of bytes in whichever encoding they are. -/
def decodeAny? (bytes : List UInt8) : Option (List Char) :=
  match Encoding.ofMark? bytes with
  | some (encoding, rest) => encoding.decode? rest
  | none => (Encoding.ofZeros bytes).decode? bytes

end CodeGloss.Text
