import CodeGloss.Format.Value

/-!
# Writing JSON

A text is written between double quotes; the quote, the backslash and the
control characters are escaped and every other character stands for itself.
A compact layout puts a blank after commas and colons. An indented layout puts
every item on a line of its own, one indent deeper than its list.
-/

namespace CodeGloss.Format.Json

inductive Layout where
  | compact
  | indented (indent : List Char)
  deriving DecidableEq, Repr

/-- The layout that indents by so many blanks. A negative number indents by none, and
without a number the layout is compact. -/
def Layout.ofWidth : Option Int → Layout
  | none => .compact
  | some width => .indented (List.replicate width.toNat ' ')

/-- How a character is written inside a string. -/
def escapeLetter (c : Char) : List Char :=
  if c = '"' then ['\\', '"']
  else if c = '\\' then ['\\', '\\']
  else if c = '\n' then ['\\', 'n']
  else if c = '\r' then ['\\', 'r']
  else if c = '\t' then ['\\', 't']
  else if c = '\x08' then ['\\', 'b']
  else if c = '\x0c' then ['\\', 'f']
  else if c.toNat < 0x20 then ['\\', 'u'] ++ Text.hexDigits 4 c.toNat
  else [c]

def encodeText (content : List Char) : List Char :=
  '"' :: content.flatMap escapeLetter ++ ['"']

/-- The line break before an item at a depth. -/
def Layout.break : Layout → Nat → List Char
  | .compact, _ => []
  | .indented indent, depth => '\n' :: (List.replicate depth indent).flatten

def Layout.comma : Layout → List Char
  | .compact => [',', ' ']
  | .indented _ => [',']

mutual

/-- Write a value whose list or record stands at `depth`. -/
def encodeAt (layout : Layout) (depth : Nat) : Value → List Char
  | .null => "null".toList
  | .bool true => "true".toList
  | .bool false => "false".toList
  | .int number => (toString number).toList
  | .real number => s!"{number.digits}e{number.exponent}".toList
  | .nonFinite name => name.toList
  | .text content => encodeText content
  | .bytes content => encodeText (content.flatMap fun b => Text.hexDigits 2 b.toNat)
  | .list [] => ['[', ']']
  | .list (item :: rest) =>
      '[' :: layout.break (depth + 1) ++ encodeItems layout (depth + 1) (item :: rest)
        ++ layout.break depth ++ [']']
  | .record [] => ['\x7b', '\x7d']
  | .record (field :: rest) =>
      '\x7b' :: layout.break (depth + 1) ++ encodeFields layout (depth + 1) (field :: rest)
        ++ layout.break depth ++ ['\x7d']

def encodeItems (layout : Layout) (depth : Nat) : List Value → List Char
  | [] => []
  | [item] => encodeAt layout depth item
  | item :: next :: rest =>
      encodeAt layout depth item ++ layout.comma ++ layout.break depth
        ++ encodeItems layout depth (next :: rest)

def encodeFields (layout : Layout) (depth : Nat) : List (List Char × Value) → List Char
  | [] => []
  | [(name, value)] => encodeText name ++ [':', ' '] ++ encodeAt layout depth value
  | (name, value) :: next :: rest =>
      encodeText name ++ [':', ' '] ++ encodeAt layout depth value ++ layout.comma
        ++ layout.break depth ++ encodeFields layout depth (next :: rest)

end

/-- The JSON text of a value. -/
def encode (layout : Layout) (value : Value) : List Char :=
  encodeAt layout 0 value

end CodeGloss.Format.Json
