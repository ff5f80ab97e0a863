/-!
# Faults in JSON text

A fault has a kind and a place. Messages count lines and columns from one and
characters from zero.
-/

namespace CodeGloss.Format.Json

/-- What a reader may find wrong at a place of the text. -/
inductive Fault where
  | expectingValue
  | expectingName
  | expectingColon
  | expectingComma
  | unterminatedString
  | controlCharacter
  | badEscape
  | badUnicodeEscape
  | extraData
  | byteOrderMark
  deriving DecidableEq, Repr

def Fault.message : Fault → String
  | .expectingValue => "Expecting value"
  | .expectingName => "Expecting property name enclosed in double quotes"
  | .expectingColon => "Expecting ':' delimiter"
  | .expectingComma => "Expecting ',' delimiter"
  | .unterminatedString => "Unterminated string starting at"
  | .controlCharacter => "Invalid control character at"
  | .badEscape => "Invalid \\escape"
  | .badUnicodeEscape => "Invalid \\uXXXX escape"
  | .extraData => "Extra data"
  | .byteOrderMark => "Unexpected UTF-8 BOM (decode using utf-8-sig)"

/-- Why a text is not the JSON text of a value. -/
inductive DecodeError where
  /-- The text breaks the grammar at a character, which is on a line and in a column. -/
  | malformed (fault : Fault) (line column place : Nat)
  /-- A whole number is written with more digits than a number may have. -/
  | longNumber (digits : Nat)
  /-- Lists and records are nested more deeply than the reader can follow. -/
  | tooDeep
  deriving DecidableEq, Repr

/-- Whether the text is at fault, and not a limit of the reader. -/
def DecodeError.isMalformed : DecodeError → Bool
  | malformed .. => true
  | longNumber _ | tooDeep => false

/-- Whole numbers are read up to this many digits. -/
def digitLimit : Nat := 4300

def DecodeError.message : DecodeError → String
  | .malformed fault line column place =>
      s!"{fault.message}: line {line} column {column} (char {place})"
  | .longNumber digits =>
      s!"Exceeds the limit ({digitLimit} digits) for integer string conversion: "
        ++ s!"value has {digits} digits; use sys.set_int_max_str_digits() to increase the limit"
  | .tooDeep => "maximum recursion depth exceeded"

/-- The fault at character `place` of `text`. -/
def DecodeError.at (text : List Char) (fault : Fault) (place : Nat) : DecodeError :=
  let before := text.take place
  let lineStart := (before.reverse.takeWhile (· != '\n')).length
  .malformed fault (before.count '\n' + 1) (lineStart + 1) place

end CodeGloss.Format.Json
