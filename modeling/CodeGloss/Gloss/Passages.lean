import CodeGloss.Gloss.Draft
import CodeGloss.Gloss.Escape
import CodeGloss.Glossary.Translate
import CodeGloss.Syntax.Parse
import CodeGloss.Text.ByteOffset

/-!
# Glossing parsed source

The passages of a parse are translated, first all but the comments, then the
comments. A literal keeps its quotes and a comment its markers; what is inserted
is escaped for the place where it goes. The ranges of a parse count bytes and
those of the result count characters.
-/

namespace CodeGloss.Gloss

open Glossary Syntax Text

/-- Why the passages of a source cannot be glossed. -/
inductive PassageError where
  /-- A passage lies beyond the source. -/
  | outsideSource
  | badEdit (edit : BadEdit)
  deriving DecidableEq, Repr

/-- The text between the first and the last character. -/
def inside (raw : List Char) : List Char :=
  raw.tail.dropLast

/-- Gloss a literal between quotes. -/
def glossQuoted (entries : List Entry) (escape : List Char → List Char → List Char)
    (start stop : Nat) (draft : Draft) : Draft :=
  let raw := slice draft.source start stop
  let quote := raw.take 1
  let translated := translateEscaped entries (escape quote) (inside raw)
  if translated = inside raw then draft
  else draft.record .string start stop (quote ++ translated ++ quote)

/-- Gloss the comment between an opener and a closer. -/
def glossCommentBody (entries : List Entry) (opener closer body : List Char)
    (start stop : Nat) (draft : Draft) : Draft :=
  let translated := translate entries body
  if translated = body then draft
  else draft.record .comment start stop (opener ++ translated ++ closer)

def lineMarker : List Char :=
  ['/', '/']

def blockOpener : List Char :=
  ['/', '*']

def blockCloser : List Char :=
  ['*', '/']

/-- Gloss a line comment or a block comment. Any other text stays. -/
def glossMarkedComment (entries : List Entry) (start stop : Nat) (draft : Draft) : Draft :=
  let raw := slice draft.source start stop
  if lineMarker.isPrefixOf raw then
    glossCommentBody entries lineMarker [] (raw.drop 2) start stop draft
  else if blockOpener.isPrefixOf raw ∧ blockCloser.isSuffixOf raw ∧ 4 ≤ raw.length then
    glossCommentBody entries blockOpener blockCloser (slice raw 2 (raw.length - 2)) start stop
      draft
  else draft

/-- Gloss the text from `start` to `stop`. -/
def glossRange (entries : List Entry) (kind : PassageKind) (start stop : Nat) (draft : Draft) :
    Draft :=
  match kind with
  | .string => glossQuoted entries Escape.inQuotes start stop draft
  | .attribute => glossQuoted entries Escape.inAttribute start stop draft
  | .templateChunk =>
      draft.record .string start stop
        (translateEscaped entries Escape.inTemplate (slice draft.source start stop))
  | .markupText =>
      draft.record .string start stop (translate entries (slice draft.source start stop))
  | .comment => glossMarkedComment entries start stop draft

/-- Gloss one passage. -/
def glossPassage (entries : List Entry) (draft : Draft) (passage : Passage) :
    Except PassageError Draft :=
  match placeOf? draft.source passage.start, placeOf? draft.source passage.stop with
  | some start, some stop => .ok (glossRange entries passage.kind start stop draft)
  | _, _ => .error .outsideSource

/-- The order of glossing: comments come last. -/
def commentsLast (passages : List Passage) : List Passage :=
  passages.filter (fun passage => passage.kind != .comment)
    ++ passages.filter (fun passage => passage.kind == .comment)

/-- Gloss the passages of a source. -/
def glossPassages (source : List Char) (passages : List Passage) (entries : List Entry)
    (language : List Char) : Except PassageError GlossedCode := do
  let draft ← (commentsLast passages).foldlM (glossPassage entries) (.empty source language)
  draft.finish.mapError .badEdit

end CodeGloss.Gloss
