import CodeGloss.Format.Json.Error
import CodeGloss.Format.Value
import CodeGloss.Text.Hexadecimal

/-!
# Reading JSON

The reader takes the longest number, reads strings one character at a time, and
keeps the last of several fields of one name at the place of the first. While
reading, a place is the number of characters from it to the end, so that the
readers need not count what they have passed.

Nested values are read with fuel. A value or a separator takes a character, and
at most two readers start between two characters, so twice the length of the
text is enough.

Fuel is no limit on what is read. A machine may set one: the levels to which lists
and records can be nested. It is passed as soon as one level too many is opened,
whatever stands behind.
-/

namespace CodeGloss.Format.Json

/-- A reader's failure: a fault with the number of characters that were left,
a number with too many digits, or a level too many. -/
inductive Failure where
  | fault (fault : Fault) (left : Nat)
  | longNumber (digits : Nat)
  | tooDeep
  deriving DecidableEq, Repr

/-- What a reader read, with the text after it. -/
abbrev Reading (α : Type) := Except Failure (α × List Char)

def isSpace (c : Char) : Bool :=
  c == ' ' || c == '\t' || c == '\n' || c == '\r'

def skipSpace (text : List Char) : List Char :=
  text.dropWhile isSpace

/-- The character that a one-letter escape stands for. -/
def escaped? : Char → Option Char
  | '"' => some '"'
  | '\\' => some '\\'
  | '/' => some '/'
  | 'b' => some '\x08'
  | 'f' => some '\x0c'
  | 'n' => some '\n'
  | 'r' => some '\r'
  | 't' => some '\t'
  | _ => none

/-- Where the reader of a string stands. `high` is the first half of a pair of
numbered escapes that together stand for one character. -/
inductive StringState where
  | plain (high : Option Nat)
  | escape (high : Option Nat)
  | number (high : Option Nat) (place left code : Nat)

/-- A first half without a second stands for nothing that text can hold. -/
def unpaired (high : Option Nat) : List Char :=
  match high with
  | some _ => ['\ufffd']
  | none => []

/-- The characters that a numbered escape completes, and the half it leaves. -/
def numbered (high : Option Nat) (code : Nat) : List Char × Option Nat :=
  if 0xD800 ≤ code ∧ code < 0xDC00 then (unpaired high, some code)
  else if 0xDC00 ≤ code ∧ code < 0xE000 then
    match high with
    | some first => ([Char.ofNat (0x10000 + (first - 0xD800) * 0x400 + (code - 0xDC00))], none)
    | none => (['\ufffd'], none)
  else (unpaired high ++ [Char.ofNat code], none)

/-- Put characters in front of what a reader read. -/
def prepend (front : List Char) (reading : Reading (List Char)) : Reading (List Char) :=
  reading.map fun (content, rest) => (front ++ content, rest)

/-- The content of a string whose opening quote is at `start`, from behind the
quote to the closing one. -/
def readString (start : Nat) : StringState → List Char → Reading (List Char)
  | .plain _, [] => .error (.fault .unterminatedString start)
  | .escape _, [] => .error (.fault .unterminatedString start)
  | .number _ place _ _, [] => .error (.fault .badUnicodeEscape place)
  | .plain high, c :: rest =>
      if c = '"' then .ok (unpaired high, rest)
      else if c = '\\' then readString start (.escape high) rest
      else if c.toNat < 0x20 then .error (.fault .controlCharacter (rest.length + 1))
      else prepend (unpaired high ++ [c]) (readString start (.plain none) rest)
  | .escape high, c :: rest =>
      if c = 'u' then readString start (.number high (rest.length + 1) 4 0) rest
      else
        match escaped? c with
        | some char => prepend (unpaired high ++ [char]) (readString start (.plain none) rest)
        | none => .error (.fault .badEscape (rest.length + 2))
  | .number high place left code, c :: rest =>
      match Text.hexValue? c with
      | none => .error (.fault .badUnicodeEscape place)
      | some digit =>
          if 1 < left then readString start (.number high place (left - 1) (code * 16 + digit)) rest
          else if rest.isEmpty then .error (.fault .badUnicodeEscape place)
          else
            let (front, half) := numbered high (code * 16 + digit)
            prepend front (readString start (.plain half) rest)

/-- The decimal value of digits. -/
def digitsValue (digits : List Char) : Nat :=
  digits.foldl (fun n c => n * 10 + (c.toNat - '0'.toNat)) 0

/-- A fraction: the digits behind a point, if there are any. -/
def readFraction (text : List Char) : List Char × List Char :=
  match text with
  | '.' :: rest =>
      match rest.span Char.isDigit with
      | ([], _) => ([], text)
      | (digits, rest) => (digits, rest)
  | _ => ([], text)

/-- An exponent, if the letter is followed by digits. -/
def readExponent (text : List Char) : Option Int × List Char :=
  match text with
  | letter :: rest =>
      if letter = 'e' ∨ letter = 'E' then
        let (negative, unsigned) :=
          match rest with
          | '-' :: rest => (true, rest)
          | '+' :: rest => (false, rest)
          | _ => (false, rest)
        match unsigned.span Char.isDigit with
        | ([], _) => (none, text)
        | (digits, rest) =>
            let size : Int := digitsValue digits
            (some (if negative then -size else size), rest)
      else (none, text)
  | [] => (none, text)

/-- The whole part of a number: a zero stands alone. -/
def readWhole (text : List Char) : List Char × List Char :=
  match text with
  | '0' :: rest => (['0'], rest)
  | _ => text.span Char.isDigit

/-- The longest number at the start of `text`. -/
def readNumber (text : List Char) : Reading Value :=
  let (negative, unsigned) :=
    match text with
    | '-' :: rest => (true, rest)
    | _ => (false, text)
  let sign (n : Nat) : Int := if negative then -(n : Int) else n
  match readWhole unsigned with
  | ([], _) => .error (.fault .expectingValue text.length)
  | (whole, afterWhole) =>
      let (fraction, afterFraction) := readFraction afterWhole
      let (exponent, rest) := readExponent afterFraction
      match fraction, exponent with
      | [], none =>
          if digitLimit < whole.length then .error (.longNumber whole.length)
          else .ok (.int (sign (digitsValue whole)), rest)
      | _, _ =>
          .ok (.real ⟨sign (digitsValue (whole ++ fraction)),
            exponent.getD 0 - fraction.length⟩, rest)

/-- The words that stand for a value. -/
def words : List (List Char × Value) :=
  [("null".toList, .null), ("true".toList, .bool true), ("false".toList, .bool false),
   ("NaN".toList, .nonFinite "nan"), ("Infinity".toList, .nonFinite "inf"),
   ("-Infinity".toList, .nonFinite "-inf")]

/-- The word at the start of `text`. -/
def readWord? (text : List Char) : Option (Value × List Char) :=
  words.findSome? fun (word, value) =>
    if word.isPrefixOf text then some (value, text.drop word.length) else none

/-- Fields in the order of their first mention, each with its last value. -/
def lastOfEach (fields : Fields) : Fields :=
  fields.foldl (fun record (name, value) => record.set name value) []

/-- The levels that are left within a list or a record, if one can be opened. Without a
number of levels there is no limit. -/
def enter? : Option Nat → Option (Option Nat)
  | none => some none
  | some 0 => none
  | some (levels + 1) => some (some levels)

mutual

def readValue : Nat → Option Nat → List Char → Reading Value
  | 0, _, text => .error (.fault .expectingValue text.length)
  | fuel + 1, levels, text =>
      match text with
      | '"' :: rest =>
          (readString text.length (.plain none) rest).map fun (content, rest) =>
            (.text content, rest)
      | '[' :: rest =>
          match enter? levels with
          | none => .error .tooDeep
          | some levels =>
              match skipSpace rest with
              | ']' :: rest => .ok (.list [], rest)
              | inside =>
                  (readItems fuel levels inside).map fun (items, rest) => (.list items, rest)
      | '\x7b' :: rest =>
          match enter? levels with
          | none => .error .tooDeep
          | some levels =>
              match skipSpace rest with
              | '\x7d' :: rest => .ok (.record [], rest)
              | inside =>
                  (readFields fuel levels inside).map fun (fields, rest) =>
                    (.record (lastOfEach fields), rest)
      | _ =>
          match readWord? text with
          | some reading => .ok reading
          | none => readNumber text

/-- The items of a list from the first one on, to the closing bracket. -/
def readItems : Nat → Option Nat → List Char → Except Failure (List Value × List Char)
  | 0, _, text => .error (.fault .expectingValue text.length)
  | fuel + 1, levels, text => do
      let (item, rest) ← readValue fuel levels text
      match skipSpace rest with
      | ']' :: rest => .ok ([item], rest)
      | ',' :: rest =>
          let (items, rest) ← readItems fuel levels (skipSpace rest)
          .ok (item :: items, rest)
      | other => .error (.fault .expectingComma other.length)

/-- The fields of a record from the first one on, to the closing brace. -/
def readFields : Nat → Option Nat → List Char → Except Failure (Fields × List Char)
  | 0, _, text => .error (.fault .expectingName text.length)
  | fuel + 1, levels, text =>
      match text with
      | '"' :: afterQuote => do
          let (name, rest) ← readString text.length (.plain none) afterQuote
          match skipSpace rest with
          | ':' :: rest =>
              let (value, rest) ← readValue fuel levels (skipSpace rest)
              match skipSpace rest with
              | '\x7d' :: rest => .ok ([(name, value)], rest)
              | ',' :: rest =>
                  let (fields, rest) ← readFields fuel levels (skipSpace rest)
                  .ok ((name, value) :: fields, rest)
              | other => .error (.fault .expectingComma other.length)
          | other => .error (.fault .expectingColon other.length)
      | _ => .error (.fault .expectingName text.length)

end

/-- A value, blanks around it, and nothing else. -/
def readDocument (levels : Option Nat) (text : List Char) : Except Failure Value := do
  let (value, rest) ← readValue (2 * text.length + 2) levels (skipSpace text)
  match skipSpace rest with
  | [] => .ok value
  | extra => .error (.fault .extraData extra.length)

/-- The value that a JSON text stands for, for a reader with so many levels. -/
def decodeWithin (levels : Option Nat) (text : List Char) : Except DecodeError Value :=
  if text.head? = some '\ufeff' then .error (.at text .byteOrderMark 0)
  else
    match readDocument levels text with
    | .ok value => .ok value
    | .error (.fault fault left) => .error (.at text fault (text.length - left))
    | .error (.longNumber digits) => .error (.longNumber digits)
    | .error .tooDeep => .error .tooDeep

/-- The value that a JSON text stands for, however deeply it is nested. -/
def decode (text : List Char) : Except DecodeError Value :=
  decodeWithin none text

end CodeGloss.Format.Json
