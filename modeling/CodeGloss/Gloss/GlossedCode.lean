/-!
# Glossed code

The code that comes out when a dictionary is applied to a source, with a segment
for each range that was replaced. The segments give both texts of the range, and
stand in the order of the source.
-/

namespace CodeGloss.Gloss

/-- What kind of text a segment replaced. -/
inductive Segment.Kind where
  /-- String literals, template chunks and markup text. -/
  | string
  /-- Line and block comments. -/
  | comment
  /-- A whole snippet taken as plain text. -/
  | text
  deriving DecidableEq, Repr

def Segment.Kind.tag : Segment.Kind → String
  | .string => "string"
  | .comment => "comment"
  | .text => "text"

def Segment.Kind.ofTag? : String → Option Segment.Kind
  | "string" => some .string
  | "comment" => some .comment
  | "text" => some .text
  | _ => none

@[simp]
theorem Segment.Kind.ofTag?_tag (kind : Segment.Kind) : ofTag? kind.tag = some kind := by
  cases kind <;> rfl

/-- One replaced range of the source. -/
structure Segment where
  kind : Segment.Kind
  source : List Char
  translated : List Char
  start : Int
  stop : Int
  deriving DecidableEq, Repr

structure GlossedCode where
  language : List Char
  code : List Char
  usedFallback : Bool
  segments : List Segment
  stringReplacements : Int
  commentReplacements : Int
  deriving DecidableEq, Repr

namespace GlossedCode

def changed (result : GlossedCode) : Bool :=
  !result.segments.isEmpty

/-- A text that was returned as it came. -/
def unchanged (language code : List Char) : GlossedCode :=
  ⟨language, code, false, [], 0, 0⟩

@[simp]
theorem changed_unchanged (language code : List Char) : (unchanged language code).changed = false :=
  rfl

end GlossedCode

end CodeGloss.Gloss
