import CodeGloss.Text.Slice

/-!
# Edits

An edit replaces a range of a source. A list of edits is spliced in one pass,
in the order of their ranges, and is refused when a range does not lie in the
source or two ranges overlap.
-/

namespace CodeGloss.Gloss

/-- Replace what lies from `start` to `stop` by `replacement`. -/
structure Edit where
  start : Int
  stop : Int
  replacement : List Char
  deriving DecidableEq, Repr

/-- Why edits cannot be spliced: this range is out of place. -/
structure BadEdit where
  start : Int
  stop : Int
  deriving DecidableEq, Repr

def BadEdit.message (e : BadEdit) : String :=
  s!"Invalid or overlapping edit at {e.start}:{e.stop}"

/-- The order of splicing: by start, then by end. -/
def Edit.precedes (a b : Edit) : Bool :=
  a.start < b.start || (a.start == b.start && a.stop ≤ b.stop)

/-- Splice ordered edits into `rest`, the part of the source from `cursor` on. -/
def spliceFrom (cursor : Int) : List Char → List Edit → Except BadEdit (List Char)
  | rest, [] => .ok rest
  | rest, edit :: edits =>
      if edit.start < cursor ∨ edit.stop < edit.start ∨ cursor + rest.length < edit.stop then
        .error ⟨edit.start, edit.stop⟩
      else
        let before := rest.take (edit.start - cursor).toNat
        let after := rest.drop (edit.stop - cursor).toNat
        (spliceFrom edit.stop after edits).map fun tail => before ++ edit.replacement ++ tail

/-- The source with all edits applied. -/
def splice (source : List Char) (edits : List Edit) : Except BadEdit (List Char) :=
  spliceFrom 0 source (edits.mergeSort Edit.precedes)

@[simp]
theorem spliceFrom_nil (cursor : Int) (rest : List Char) : spliceFrom cursor rest [] = .ok rest :=
  rfl

@[simp]
theorem splice_nil (source : List Char) : splice source [] = .ok source := by
  simp [splice]

end CodeGloss.Gloss
