import CodeGloss.Text.Replace

/-!
# Escaping inserted text

Text that is inserted into a literal is escaped so that it stays inside. In a
quoted literal a backslash protects the quote and itself. In a literal with
tripled quotes only the full delimiter is dangerous, so its last quote is
protected. In a template the backtick and the opener of a substitution are
protected. A markup attribute knows no backslash, so its quote is written as a
character reference.
-/

namespace CodeGloss.Gloss.Escape

open Text

/-- Escape for a literal between single delimiters. -/
def inQuotes (quote text : List Char) : List Char :=
  replaceAll quote ('\\' :: quote) (replaceAll ['\\'] ['\\', '\\'] text)

/-- Escape for a literal between tripled delimiters. -/
def inTripleQuotes (quote text : List Char) : List Char :=
  replaceAll (quote ++ quote ++ quote) (quote ++ quote ++ '\\' :: quote)
    (replaceAll ['\\'] ['\\', '\\'] text)

/-- Escape for a chunk of a template. -/
def inTemplate (text : List Char) : List Char :=
  replaceAll ['$', '\x7b'] ['\\', '$', '\x7b'] (replaceAll ['\x60'] ['\\', '\x60'] text)

/-- The character reference of a quote that may enclose an attribute. -/
def reference? : List Char → Option (List Char)
  | ['\''] => some "&apos;".toList
  | ['"'] => some "&quot;".toList
  | _ => none

/-- Escape for an attribute value between quotes. -/
def inAttribute (quote text : List Char) : List Char :=
  match reference? quote with
  | some reference => replaceAll quote reference text
  | none => text

end CodeGloss.Gloss.Escape
