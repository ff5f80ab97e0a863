import CodeGloss.Text.Hexadecimal
import CodeGloss.Text.Printable

/-!
# Quoted display of text

Messages show a text between quotes, so that blanks, quotes and characters
without a glyph stay visible. Apostrophes enclose it, unless it holds an
apostrophe and no double quote.
-/

namespace CodeGloss.Text

/-- How a character is shown between quotes of the given kind. -/
def quotedLetter (quote c : Char) : List Char :=
  if c == quote || c == '\\' then ['\\', c]
  else if c == '\n' then ['\\', 'n']
  else if c == '\r' then ['\\', 'r']
  else if c == '\t' then ['\\', 't']
  else if isPrintable c then [c]
  else if c.toNat < 0x100 then ['\\', 'x'] ++ hexDigits 2 c.toNat
  else if c.toNat < 0x10000 then ['\\', 'u'] ++ hexDigits 4 c.toNat
  else ['\\', 'U'] ++ hexDigits 8 c.toNat

/-- The quote that encloses a text. -/
def enclosingQuote (text : List Char) : Char :=
  if text.contains '\'' && !text.contains '"' then '"' else '\''

def quoted (text : List Char) : List Char :=
  let quote := enclosingQuote text
  quote :: text.flatMap (quotedLetter quote) ++ [quote]

/-- The quoted display of a string. -/
def quotedString (text : String) : String :=
  String.ofList (quoted text.toList)

end CodeGloss.Text
