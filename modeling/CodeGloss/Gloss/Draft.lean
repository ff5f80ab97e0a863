import CodeGloss.Gloss.Edit
import CodeGloss.Gloss.GlossedCode
import CodeGloss.Text.Slice

/-!
# Drafts

A draft records what is replaced in a source: an edit for the splice, a segment
for the caller, and a count by kind. A replacement that changes nothing is
dropped. The finished code lists the segments in source order.
-/

namespace CodeGloss.Gloss

open Text

/-- The replacements recorded so far. -/
structure Draft where
  source : List Char
  language : List Char
  edits : List Edit
  segments : List Segment
  stringReplacements : Nat
  commentReplacements : Nat
  deriving DecidableEq, Repr

namespace Draft

def empty (source language : List Char) : Draft :=
  ⟨source, language, [], [], 0, 0⟩

/-- Whether a replacement would change its range. -/
def wouldChange (draft : Draft) (start stop : Nat) (replacement : List Char) : Bool :=
  slice draft.source start stop != replacement

/-- Record a replacement, unless it changes nothing. -/
def record (draft : Draft) (kind : Segment.Kind) (start stop : Nat)
    (replacement : List Char) : Draft :=
  if draft.wouldChange start stop replacement then
    { draft with
      edits := draft.edits ++ [⟨start, stop, replacement⟩]
      segments := draft.segments
        ++ [⟨kind, slice draft.source start stop, replacement, start, stop⟩]
      stringReplacements :=
        draft.stringReplacements + if kind = .comment then 0 else 1
      commentReplacements :=
        draft.commentReplacements + if kind = .comment then 1 else 0 }
  else draft

/-- The code with the recorded replacements. -/
def finish (draft : Draft) : Except BadEdit GlossedCode :=
  (splice draft.source draft.edits).map fun code =>
    { language := draft.language
      code
      usedFallback := false
      segments := draft.segments.mergeSort fun a b => a.start ≤ b.start
      stringReplacements := draft.stringReplacements
      commentReplacements := draft.commentReplacements }

@[simp]
theorem source_record (draft : Draft) (kind : Segment.Kind) (start stop : Nat)
    (replacement : List Char) :
    (draft.record kind start stop replacement).source = draft.source := by
  unfold record
  split <;> rfl

end Draft

end CodeGloss.Gloss
