import CodeGloss.Text.Utf8

/-!
# UTF-8 in blocks

A long byte sequence is decoded block by block. The bytes of a character that a
block cuts short are carried to the next block. Places of faults count from the
first carried byte.
-/

namespace CodeGloss.Text.Utf8

/-- Whether bytes are the beginning of a code point that is set aside for pairs of
sixteen-bit units. They are no character, which their third byte makes certain. -/
def beginsPairHalf : List UInt8 → Bool
  | [first, second] => first == 0xED && 0xA0 ≤ second && second ≤ 0xBF
  | _ => false

/-- The text of one block and the bytes it leaves for the next. -/
def decodeBlock (bytes : List UInt8) : Except DecodeError (List Char × List UInt8) :=
  match decodeFrom 0 bytes with
  | (text, none) => .ok (text, [])
  | (text, some e) =>
      let left := bytes.drop e.start
      if e.fault = .cutShort ∨ beginsPairHalf left = true then .ok (text, left) else .error e

/-- The text of the blocks before the first fault, and the fault. -/
def decodeBlocks (size : Nat) (carried bytes : List UInt8) : List Char × Option DecodeError :=
  match bytes with
  | [] => ([], (decodeFrom 0 carried).2)
  | b :: rest =>
      match decodeBlock (carried ++ (b :: rest).take (size + 1)) with
      | .error e => ([], some e)
      | .ok (text, left) =>
          let (more, fault) := decodeBlocks size left (rest.drop size)
          (text ++ more, fault)
termination_by bytes.length
decreasing_by simp only [List.length_drop, List.length_cons]; omega

/-- The number of bytes in a block. -/
def blockSize : Nat := 8192

/-- Decode in blocks of the usual size. -/
def decodeInBlocks (bytes : List UInt8) : List Char × Option DecodeError :=
  decodeBlocks (blockSize - 1) [] bytes

end CodeGloss.Text.Utf8
