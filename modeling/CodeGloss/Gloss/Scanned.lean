import CodeGloss.Gloss.Draft
import CodeGloss.Gloss.Escape
import CodeGloss.Glossary.Translate
import CodeGloss.Scan.Span

/-!
# Glossing scanned source

The comments and terminated strings of a source are translated and everything
else is kept. A comment keeps its marker, and a string its letters and
delimiters. What is inserted into a string is escaped for its delimiter.
-/

namespace CodeGloss.Gloss

open Glossary Scan Text

/-- The escape for text inside a literal. -/
def literalEscape (literal : Literal) : List Char → List Char :=
  if literal.triple then Escape.inTripleQuotes [literal.quote] else Escape.inQuotes [literal.quote]

def glossComment (marker : List Char) (entries : List Entry) (start stop : Nat)
    (draft : Draft) : Draft :=
  let inner := slice draft.source (start + marker.length) stop
  let translated := translate entries inner
  if translated = inner then draft
  else draft.record .comment start stop (marker ++ translated)

def glossLiteral (entries : List Entry) (literal : Literal) (draft : Draft) : Draft :=
  let inner := slice draft.source literal.contentStart literal.contentStop
  let translated := translateEscaped entries (literalEscape literal) inner
  if translated = inner then draft
  else
    draft.record .string literal.start literal.stop
      (literal.lead ++ literal.delimiter ++ translated ++ literal.delimiter)

def glossSpan (profile : Profile) (entries : List Entry) (draft : Draft) : Span → Draft
  | .comment start stop => glossComment profile.commentMarker entries start stop draft
  | .string literal =>
      if literal.terminated then glossLiteral entries literal draft else draft

/-- Gloss a source under a profile. -/
def glossScanned (profile : Profile) (source : List Char) (entries : List Entry)
    (language : List Char) : Except BadEdit GlossedCode :=
  ((scan profile source).foldl (glossSpan profile entries) (.empty source language)).finish

end CodeGloss.Gloss
