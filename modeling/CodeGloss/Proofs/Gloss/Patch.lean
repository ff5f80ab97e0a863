import CodeGloss.Gloss.Edit
import CodeGloss.Gloss.GlossedCode
import CodeGloss.Proofs.Text.Slice
import Mathlib.Algebra.Ring.Int.Defs

/-!
# Segments as a patch

Segments in source order lay the source and the code beside each other: both
have the same characters between the segments, and at a segment one has its
source text and the other its translation. From such a weave everything is read
off that makes the segments a patch. Applied one at a time they turn the source
into the code, undone at their shifted places they turn the code into the
source, and splicing never refuses them.
-/

namespace CodeGloss.Gloss

open Text

/-! ## Edits one at a time -/

/-- The text with one range replaced. -/
def Edit.applyTo (edit : Edit) (text : List Char) : List Char :=
  text.take edit.start.toNat ++ edit.replacement ++ text.drop edit.stop.toNat

/-- Edits applied one at a time, the last one first, so that each finds its range
where it was. -/
def applyEach (edits : List Edit) (text : List Char) : List Char :=
  edits.foldr Edit.applyTo text

@[simp]
theorem applyEach_cons (edit : Edit) (edits : List Edit) (text : List Char) :
    applyEach (edit :: edits) text = edit.applyTo (applyEach edits text) :=
  rfl

theorem Edit.applyTo_append {edit : Edit} {before old rest : List Char}
    (start : edit.start = before.length) (stop : edit.stop = before.length + old.length) :
    edit.applyTo (before ++ (old ++ rest)) = before ++ (edit.replacement ++ rest) := by
  have startNat : edit.start.toNat = before.length := by omega
  have stopNat : edit.stop.toNat = (before ++ old).length := by
    rw [List.length_append]
    omega
  rw [applyTo, startNat, stopNat, List.take_left, ← List.append_assoc before old,
    List.drop_left, List.append_assoc]

theorem spliceFrom_cons {cursor : Int} {rest : List Char} {edit : Edit} {edits : List Edit}
    (fits : cursor ≤ edit.start ∧ edit.start ≤ edit.stop ∧ edit.stop ≤ cursor + rest.length) :
    spliceFrom cursor rest (edit :: edits) =
      (spliceFrom edit.stop (rest.drop (edit.stop - cursor).toNat) edits).map fun tail =>
        rest.take (edit.start - cursor).toNat ++ edit.replacement ++ tail := by
  rw [spliceFrom, if_neg (by omega)]

/-- A character before the first edit is kept. -/
theorem spliceFrom_keep {cursor : Int} {rest : List Char} {edits : List Edit} (c : Char)
    (later : ∀ edit ∈ edits.head?,
      cursor + 1 ≤ edit.start ∧ edit.start ≤ edit.stop
        ∧ edit.stop ≤ cursor + 1 + rest.length) :
    spliceFrom cursor (c :: rest) edits = (spliceFrom (cursor + 1) rest edits).map (c :: ·) := by
  cases edits with
  | nil => rfl
  | cons edit edits =>
      have fits := later edit rfl
      have startNat : (edit.start - cursor).toNat = (edit.start - (cursor + 1)).toNat + 1 := by
        omega
      have stopNat : (edit.stop - cursor).toNat = (edit.stop - (cursor + 1)).toNat + 1 := by
        omega
      rw [spliceFrom_cons fits, spliceFrom_cons (by rw [List.length_cons]; omega), startNat,
        stopNat, List.take_succ_cons, List.drop_succ_cons]
      cases spliceFrom edit.stop (rest.drop (edit.stop - (cursor + 1)).toNat) edits <;> rfl

namespace Segment

/-- The edit of the source that a segment stands for. -/
def edit (s : Segment) : Edit :=
  ⟨s.start, s.stop, s.translated⟩

/-- How much longer the code becomes by a segment. -/
def growth (s : Segment) : Int :=
  s.translated.length - s.source.length

/-- How much longer the code becomes by the segments that end before a place of
the source. -/
def growthBefore (segments : List Segment) (place : Int) : Int :=
  ((segments.filter fun s => s.stop ≤ place).map growth).sum

/-- The edit of the code that takes a segment back, if the code has it `moved`
further on. -/
def undoMoved (moved : Int) (s : Segment) : Edit :=
  ⟨s.start + moved, s.start + moved + s.translated.length, s.source⟩

/-- The edit of the code that takes one of its segments back. -/
def undo (segments : List Segment) (s : Segment) : Edit :=
  s.undoMoved (growthBefore segments s.start)

theorem growthBefore_cons (s : Segment) (segments : List Segment) (place : Int) :
    growthBefore (s :: segments) place =
      (if s.stop ≤ place then s.growth else 0) + growthBefore segments place := by
  by_cases ended : s.stop ≤ place <;> simp [growthBefore, ended]

theorem growthBefore_eq_zero {segments : List Segment} {place : Int}
    (later : ∀ s ∈ segments, place < s.stop) : growthBefore segments place = 0 := by
  have none : segments.filter (fun s => s.stop ≤ place) = [] := by
    apply List.filter_eq_nil_iff.mpr
    intro s member
    simpa using later s member
  rw [growthBefore, none]
  rfl

end Segment

open Segment

/-! ## Source and code side by side -/

/-- The source and the code from a place of the source on, with the segments that
lie there. -/
inductive Weave : Nat → List Segment → List Char → List Char → Prop
  | done (place : Nat) : Weave place [] [] []
  | keep {place : Nat} {segments : List Segment} {source code : List Char} (c : Char)
      (tail : Weave (place + 1) segments source code) :
      Weave place segments (c :: source) (c :: code)
  | swap {place : Nat} {segments : List Segment} {source code : List Char} {s : Segment}
      (start : s.start = place) (stop : s.stop = place + s.source.length)
      (tail : Weave (place + s.source.length) segments source code) :
      Weave place (s :: segments) (s.source ++ source) (s.translated ++ code)

namespace Weave

variable {place : Nat} {segments : List Segment} {source code : List Char}

theorem keepAll {gap : List Char} (tail : Weave (place + gap.length) segments source code) :
    Weave place segments (gap ++ source) (gap ++ code) := by
  induction gap generalizing place with
  | nil => exact tail
  | cons c gap ih =>
      apply Weave.keep c
      apply ih
      rw [List.length_cons] at tail
      rw [Nat.add_assoc, Nat.add_comm 1]
      exact tail

/-- Without segments the code is the source. -/
theorem refl (place : Nat) (text : List Char) : Weave place [] text text := by
  induction text generalizing place with
  | nil => exact .done place
  | cons c text ih => exact .keep c (ih (place + 1))

/-- Every segment lies in the text that is laid out. -/
theorem bounds (weave : Weave place segments source code) {s : Segment} (member : s ∈ segments) :
    (place : Int) ≤ s.start ∧ s.stop = s.start + s.source.length
      ∧ s.stop ≤ place + source.length := by
  induction weave with
  | done place => simp at member
  | keep c _ ih =>
      have inTail := ih member
      rw [List.length_cons]
      omega
  | @swap place segments source code first start stop _ ih =>
      rw [List.length_append]
      rcases List.mem_cons.mp member with rfl | later
      · omega
      · have inTail := ih later
        omega

theorem ordered (weave : Weave place segments source code) :
    segments.Pairwise fun a b => a.stop ≤ b.start := by
  induction weave with
  | done place => exact .nil
  | keep c _ ih => exact ih
  | @swap place segments source code first start stop tail ih =>
      apply List.Pairwise.cons _ ih
      intro s member
      have inTail := tail.bounds member
      omega

/-- A segment has the text of its range. -/
theorem source_eq_slice (weave : Weave place segments source code) (before : List Char)
    (length : before.length = place) {s : Segment} (member : s ∈ segments) :
    s.source = slice (before ++ source) s.start.toNat s.stop.toNat := by
  induction weave generalizing before with
  | done place => simp at member
  | keep c _ ih =>
      have inTail := ih (before ++ [c]) (by simp [length]) member
      simpa using inTail
  | @swap place segments source code first start stop _ ih =>
      rcases List.mem_cons.mp member with rfl | later
      · have startNat : s.start.toNat = before.length := by omega
        have stopNat : s.stop.toNat = (before ++ s.source).length := by
          rw [List.length_append]
          omega
        rw [slice, startNat, stopNat, ← List.append_assoc, List.take_left, List.drop_left]
      · have inTail := ih (before ++ first.source) (by simp [length]) later
        simpa using inTail

/-- Applied to the source, the segments give the code. -/
theorem applyEach_edit (weave : Weave place segments source code) (before : List Char)
    (length : before.length = place) :
    applyEach (segments.map edit) (before ++ source) = before ++ code := by
  induction weave generalizing before with
  | done place => rfl
  | keep c _ ih =>
      have inTail := ih (before ++ [c]) (by simp [length])
      simpa using inTail
  | @swap place segments source code s start stop _ ih =>
      have inTail := ih (before ++ s.source) (by simp [length])
      rw [List.append_assoc, List.append_assoc] at inTail
      rw [List.map_cons, applyEach_cons, inTail]
      exact Edit.applyTo_append (start.trans (by rw [length])) (stop.trans (by rw [length]))

/-- Splicing accepts the segments and gives the code. -/
theorem spliceFrom_edit (weave : Weave place segments source code) :
    spliceFrom place source (segments.map edit) = .ok code := by
  induction weave with
  | done place => rfl
  | @keep place segments source code c tail ih =>
      have later : ∀ e ∈ (segments.map edit).head?,
          (place : Int) + 1 ≤ e.start ∧ e.start ≤ e.stop ∧ e.stop ≤ place + 1 + source.length := by
        intro e first
        rcases List.mem_map.mp (List.mem_of_mem_head? first) with ⟨s, member, rfl⟩
        have inTail := tail.bounds member
        simp only [edit]
        omega
      rw [spliceFrom_keep c later]
      exact congrArg (Except.map (c :: ·)) ih
  | @swap place segments source code s start stop tail ih =>
      have fits : (place : Int) ≤ s.edit.start ∧ s.edit.start ≤ s.edit.stop
          ∧ s.edit.stop ≤ place + (s.source ++ source).length := by
        simp only [edit, List.length_append]
        omega
      have startNat : (s.edit.start - place).toNat = 0 := by
        simp only [edit]
        omega
      have stopNat : (s.edit.stop - place).toNat = s.source.length := by
        simp only [edit]
        omega
      have cursor : s.edit.stop = (place + s.source.length : Nat) := by
        simp only [edit]
        omega
      rw [List.map_cons, spliceFrom_cons fits, startNat, stopNat, List.drop_left, cursor, ih]
      rfl

/-- Before a segment that is not empty nothing has grown yet. -/
theorem growthBefore_start {s : Segment}
    (weave : Weave place (s :: segments) source code) (nonempty : s.source ≠ []) :
    growthBefore (s :: segments) s.start = 0 := by
  apply growthBefore_eq_zero
  intro t member
  have positive := List.length_pos_iff.mpr nonempty
  have first := weave.bounds List.mem_cons_self
  rcases List.mem_cons.mp member with rfl | later
  · omega
  · have apart := List.rel_of_pairwise_cons weave.ordered later
    have inTail := weave.bounds member
    omega

/-- Taken back one at a time, the segments give the source. -/
theorem applyEach_undoMoved (weave : Weave place segments source code)
    (nonempty : ∀ s ∈ segments, s.source ≠ []) (before : List Char) (moved : Int)
    (length : (before.length : Int) = place + moved) :
    applyEach (segments.map fun s => s.undoMoved (moved + growthBefore segments s.start))
      (before ++ code) = before ++ source := by
  induction weave generalizing before moved with
  | done place => rfl
  | keep c _ ih =>
      have inTail := ih nonempty (before ++ [c]) moved
        (by rw [List.length_append, List.length_singleton]; omega)
      simpa using inTail
  | @swap place segments source code s start stop tail ih =>
      have still := growthBefore_start (.swap start stop tail) (nonempty s List.mem_cons_self)
      have movedOn : segments.map (fun t =>
            t.undoMoved (moved + growthBefore (s :: segments) t.start)) =
          segments.map fun t =>
            t.undoMoved (moved + s.growth + growthBefore segments t.start) := by
        apply List.map_congr_left
        intro t member
        have inTail := tail.bounds member
        rw [growthBefore_cons, if_pos (by omega), Int.add_assoc]
      have inTail := ih (fun t member => nonempty t (List.mem_cons_of_mem s member))
        (before ++ s.translated) (moved + s.growth)
        (by rw [List.length_append, growth]; omega)
      rw [List.append_assoc, List.append_assoc] at inTail
      rw [List.map_cons, applyEach_cons, movedOn, inTail, still]
      apply Edit.applyTo_append
      · simp only [undoMoved]
        omega
      · simp only [undoMoved]
        omega

theorem le_add_growthBefore (weave : Weave place segments source code) {p : Nat}
    (reached : place ≤ p) : (place : Int) ≤ p + growthBefore segments p := by
  induction weave with
  | done place =>
      rw [growthBefore_eq_zero (by simp)]
      omega
  | @keep place segments source code c tail ih =>
      rcases Nat.eq_or_lt_of_le reached with rfl | beyond
      · rw [growthBefore_eq_zero]
        · omega
        · intro s member
          have inTail := tail.bounds member
          omega
      · have inTail := ih beyond
        omega
  | @swap place segments source code s start stop tail ih =>
      rw [growthBefore_cons]
      by_cases ended : s.stop ≤ p
      · have inTail := ih (by omega)
        rw [if_pos ended, growth]
        omega
      · rw [if_neg ended, growthBefore_eq_zero]
        · omega
        · intro t member
          have inTail := tail.bounds member
          omega

/-- A character outside the segments is in the code what it is in the source. -/
theorem getElem?_code (weave : Weave place segments source code) {p : Nat} (reached : place ≤ p)
    (inText : p < place + source.length)
    (outside : ∀ s ∈ segments, (p : Int) < s.start ∨ s.stop ≤ p) :
    code[(p - place + growthBefore segments p).toNat]? = source[p - place]? := by
  induction weave with
  | done place => rfl
  | @keep place segments source code c tail ih =>
      rcases Nat.eq_or_lt_of_le reached with rfl | beyond
      · rw [growthBefore_eq_zero]
        · simp
        · intro s member
          have inTail := tail.bounds member
          omega
      · have grown := tail.le_add_growthBefore beyond
        have codeNext : (p - place + growthBefore segments p).toNat =
            (p - (place + 1 : Nat) + growthBefore segments p).toNat + 1 := by omega
        have sourceNext : p - place = p - (place + 1) + 1 := by omega
        rw [codeNext, sourceNext, List.getElem?_cons_succ, List.getElem?_cons_succ]
        rw [List.length_cons] at inText
        exact ih beyond (by omega) outside
  | @swap place segments source code s start stop tail ih =>
      have ended : s.stop ≤ p := by
        rcases outside s List.mem_cons_self with before | behind
        · omega
        · exact behind
      have beyond : place + s.source.length ≤ p := by omega
      have grown := tail.le_add_growthBefore beyond
      have codeNext : (p - place + growthBefore (s :: segments) p).toNat =
          s.translated.length
            + (p - (place + s.source.length : Nat) + growthBefore segments p).toNat := by
        rw [growthBefore_cons, if_pos ended, growth]
        omega
      have sourceNext : p - place = s.source.length + (p - (place + s.source.length)) := by omega
      rw [codeNext, sourceNext, List.getElem?_append_right (by omega),
        List.getElem?_append_right (by omega), Nat.add_sub_cancel_left, Nat.add_sub_cancel_left]
      rw [List.length_append] at inText
      exact ih beyond (by omega) fun t member => outside t (List.mem_cons_of_mem s member)

end Weave

/-! ## Segments that can be laid out -/

/-- The segment has a range of the text and what stands there. -/
def Segment.Fits (text : List Char) (s : Segment) : Prop :=
  0 ≤ s.start ∧ s.start ≤ s.stop ∧ s.stop ≤ text.length
    ∧ s.source = slice text s.start.toNat s.stop.toNat

/-- Segments in order lay the source and some code beside each other. -/
theorem exists_weave {segments : List Segment} (text : List Char) (place : Nat)
    (ordered : segments.Pairwise fun a b => a.stop ≤ b.start)
    (reached : ∀ s ∈ segments, (place : Int) ≤ s.start) (fit : ∀ s ∈ segments, s.Fits text) :
    ∃ code, Weave place segments (text.drop place) code := by
  induction segments generalizing place with
  | nil => exact ⟨text.drop place, .refl place _⟩
  | cons s segments ih =>
      rcases fit s List.mem_cons_self with ⟨_, forward, inText, isSlice⟩
      have begins := reached s List.mem_cons_self
      have sourceLength := congrArg List.length isSlice
      rw [length_slice] at sourceLength
      have gapLength := length_slice text place s.start.toNat
      obtain ⟨code, tail⟩ := ih s.stop.toNat ordered.tail
        (fun t member => by
          have apart := List.rel_of_pairwise_cons ordered member
          omega)
        (fun t member => fit t (List.mem_cons_of_mem s member))
      refine ⟨slice text place s.start.toNat ++ (s.translated ++ code), ?_⟩
      rw [drop_eq_slice_append text (by omega : place ≤ s.start.toNat),
        drop_eq_slice_append text (by omega : s.start.toNat ≤ s.stop.toNat), ← isSlice]
      apply Weave.keepAll
      apply Weave.swap
      · omega
      · omega
      · have stop : place + (slice text place s.start.toNat).length + s.source.length =
            s.stop.toNat := by omega
        rw [stop]
        exact tail

/-! ## Exact patches -/

/-- The segments of a result are an exact patch of the source: they stand in order,
each with the text of its range and with another one in its place; applied they
give the code, and taken back the source; outside them nothing changes; and they
are counted by kind. -/
structure IsExactPatch (source : List Char) (result : GlossedCode) : Prop where
  ordered : result.segments.Pairwise fun a b => a.start < b.start ∧ a.stop ≤ b.start
  inside : ∀ s ∈ result.segments, 0 ≤ s.start ∧ s.start < s.stop ∧ s.stop ≤ source.length
  original : ∀ s ∈ result.segments, s.source = slice source s.start.toNat s.stop.toNat
  differs : ∀ s ∈ result.segments, s.source ≠ s.translated
  applied : applyEach (result.segments.map edit) source = result.code
  undone : applyEach (result.segments.map (undo result.segments)) result.code = source
  kept : ∀ place < source.length,
    (∀ s ∈ result.segments, (place : Int) < s.start ∨ s.stop ≤ place) →
      result.code[(place + growthBefore result.segments place).toNat]? = source[place]?
  strings : result.stringReplacements = result.segments.countP (·.kind == .string)
  comments : result.commentReplacements = result.segments.countP (·.kind == .comment)

theorem IsExactPatch.of_weave {source : List Char} {result : GlossedCode}
    (weave : Weave 0 result.segments source result.code)
    (nonempty : ∀ s ∈ result.segments, s.source ≠ [])
    (differs : ∀ s ∈ result.segments, s.source ≠ s.translated)
    (strings : result.stringReplacements = result.segments.countP (·.kind == .string))
    (comments : result.commentReplacements = result.segments.countP (·.kind == .comment)) :
    IsExactPatch source result where
  inside s member := by
    have bounds := weave.bounds member
    have positive := List.length_pos_iff.mpr (nonempty s member)
    omega
  ordered := by
    refine weave.ordered.imp_of_mem fun {a b} aMem _ apart => ⟨?_, apart⟩
    have bounds := weave.bounds aMem
    have positive := List.length_pos_iff.mpr (nonempty a aMem)
    omega
  original s member := weave.source_eq_slice [] rfl member
  differs := differs
  applied := weave.applyEach_edit [] rfl
  undone := by
    have undone := weave.applyEach_undoMoved nonempty [] 0 rfl
    simp only [Int.zero_add, List.nil_append] at undone
    exact undone
  kept place inText outside := by
    have kept := weave.getElem?_code (Nat.zero_le place) (by omega) outside
    simpa using kept
  strings := strings
  comments := comments

end CodeGloss.Gloss
