import CodeGloss.Proofs.Gloss.Recording
import Mathlib.Data.List.TakeWhile

/-!
# Edits in the order of their ranges

Edits are spliced in the order of their ranges, those of one range as they are listed. In this
order an edit is put before the first one that it precedes. The last one in order is listed
behind all others of its range, and with it taken out the others keep their order.
-/

namespace CodeGloss.Gloss

/-! ## Ranges -/

/-- The range that the edit replaces. -/
def Edit.range (edit : Edit) : Int × Int :=
  (edit.start, edit.stop)

theorem Edit.range_eq_iff {a b : Edit} : a.range = b.range ↔ a.start = b.start ∧ a.stop = b.stop := by
  rw [Edit.range, Edit.range, Prod.mk.injEq]

theorem Edit.precedes_trans (a b c : Edit) (first : a.precedes b = true)
    (second : b.precedes c = true) : a.precedes c = true := by
  rw [Edit.precedes_iff] at *
  omega

theorem Edit.precedes_total (a b : Edit) : (a.precedes b || b.precedes a) = true := by
  rw [Bool.or_eq_true, Edit.precedes_iff, Edit.precedes_iff]
  omega

/-! ## The order -/

/-- The edits in the order of their ranges, those of one range as they are listed. -/
def inRangeOrder (edits : List Edit) : List Edit :=
  edits.mergeSort Edit.precedes

@[simp]
theorem inRangeOrder_nil : inRangeOrder [] = [] :=
  List.mergeSort_nil

theorem inRangeOrder_perm (edits : List Edit) : (inRangeOrder edits).Perm edits :=
  List.mergeSort_perm _ _

theorem pairwise_inRangeOrder (edits : List Edit) :
    (inRangeOrder edits).Pairwise fun a b => a.precedes b = true :=
  List.pairwise_mergeSort Edit.precedes_trans Edit.precedes_total edits

/-- However the edits are listed, their ranges come in one order. -/
theorem map_range_inRangeOrder {edits others : List Edit} (perm : edits.Perm others) :
    (inRangeOrder edits).map Edit.range = (inRangeOrder others).map Edit.range := by
  have ordered : ∀ edits : List Edit, ((inRangeOrder edits).map Edit.range).Pairwise
      fun a b => a.1 < b.1 ∨ a.1 = b.1 ∧ a.2 ≤ b.2 := by
    intro edits
    rw [List.pairwise_map]
    exact (pairwise_inRangeOrder edits).imp Edit.precedes_iff.mp
  apply List.Perm.eq_of_pairwise _ (ordered edits) (ordered others)
  · exact (((inRangeOrder_perm edits).trans perm).trans (inRangeOrder_perm others).symm).map _
  · rintro ⟨aStart, aStop⟩ ⟨bStart, bStop⟩ _ _ first second
    simp only at first second
    rw [Prod.mk.injEq]
    omega

/-! ## First and last edits -/

/-- An edit is put before the first one that it precedes. -/
theorem inRangeOrder_cons (edit : Edit) (edits : List Edit) :
    inRangeOrder (edit :: edits) =
      (inRangeOrder edits).takeWhile (fun other => !edit.precedes other)
        ++ edit :: (inRangeOrder edits).dropWhile (fun other => !edit.precedes other) := by
  rcases List.mergeSort_cons Edit.precedes_trans Edit.precedes_total edit edits with
    ⟨before, behind, sorted, rest, apart⟩
  have follows : ∀ other ∈ behind, edit.precedes other = true := by
    have ordered := pairwise_inRangeOrder (edit :: edits)
    rw [inRangeOrder, sorted, List.pairwise_append, List.pairwise_cons] at ordered
    exact ordered.2.1.1
  have split : behind.takeWhile (fun other => !edit.precedes other) = []
      ∧ behind.dropWhile (fun other => !edit.precedes other) = behind := by
    cases behind with
    | nil => exact ⟨rfl, rfl⟩
    | cons other behind =>
        have precedes := follows other List.mem_cons_self
        exact ⟨List.takeWhile_cons_of_neg (by simp [precedes]),
          List.dropWhile_cons_of_neg (by simp [precedes])⟩
  rw [inRangeOrder, inRangeOrder, sorted, rest, List.takeWhile_append_of_pos apart,
    List.dropWhile_append_of_pos apart, split.1, split.2, List.append_nil]

theorem takeWhile_concat {α : Type} {p : α → Bool} {last : α} (stops : p last = false)
    (items : List α) : (items ++ [last]).takeWhile p = items.takeWhile p := by
  induction items with
  | nil => exact List.takeWhile_cons_of_neg (by simp [stops])
  | cons item items ih =>
      rw [List.cons_append, List.takeWhile_cons, List.takeWhile_cons, ih]

theorem dropWhile_concat {α : Type} {p : α → Bool} {last : α} (stops : p last = false)
    (items : List α) : (items ++ [last]).dropWhile p = items.dropWhile p ++ [last] := by
  induction items with
  | nil => exact List.dropWhile_cons_of_neg (by simp [stops])
  | cons item items ih =>
      rw [List.cons_append, List.dropWhile_cons, List.dropWhile_cons, ih]
      split <;> rfl

/-- An edit that all before it precede, and that precedes none behind it, is the last in order. -/
theorem inRangeOrder_append_cons {front back : List Edit} {edit : Edit}
    (before : ∀ other ∈ front, other.precedes edit = true)
    (behind : ∀ other ∈ back, edit.precedes other = false) :
    inRangeOrder (front ++ edit :: back) = inRangeOrder (front ++ back) ++ [edit] := by
  induction front with
  | nil =>
      have none : ∀ other ∈ inRangeOrder back, (!edit.precedes other) = true := by
        intro other member
        rw [behind other ((inRangeOrder_perm back).mem_iff.mp member)]
        rfl
      rw [List.nil_append, List.nil_append, inRangeOrder_cons, List.takeWhile_eq_self_iff.mpr none,
        List.dropWhile_eq_nil_iff.mpr none]
  | cons other front ih =>
      rw [List.forall_mem_cons] at before
      have stops : (!other.precedes edit) = false := by
        rw [before.1]
        rfl
      rw [List.cons_append, List.cons_append, inRangeOrder_cons, inRangeOrder_cons, ih before.2,
        takeWhile_concat (p := fun later => !other.precedes later) stops,
        dropWhile_concat (p := fun later => !other.precedes later) stops, List.append_assoc,
        List.cons_append]

/-- Some edit is the last in order, and listed behind the others of its range. -/
theorem exists_last {edits : List Edit} (nonempty : edits ≠ []) :
    ∃ front edit back, edits = front ++ edit :: back
      ∧ (∀ other ∈ front, other.precedes edit = true)
      ∧ ∀ other ∈ back, edit.precedes other = false := by
  induction edits with
  | nil => contradiction
  | cons first edits ih =>
      by_cases isLast : ∀ other ∈ edits, first.precedes other = false
      · exact ⟨[], first, edits, rfl, List.forall_mem_nil _, isLast⟩
      · have others : edits ≠ [] := by
          rintro rfl
          exact isLast (List.forall_mem_nil _)
        rcases ih others with ⟨front, last, back, rfl, before, behind⟩
        have reaches : ∀ other ∈ front ++ last :: back, other.precedes last = true := by
          intro other member
          rw [List.mem_append, List.mem_cons] at member
          rcases member with inFront | rfl | inBack
          · exact before other inFront
          · exact Edit.precedes_iff.mpr (.inr ⟨rfl, Int.le_refl _⟩)
          · have total := Edit.precedes_total other last
            rw [behind other inBack, Bool.or_false] at total
            exact total
        simp only [not_forall, Bool.not_eq_false] at isLast
        rcases isLast with ⟨other, member, precedes⟩
        have firstReaches := Edit.precedes_trans first other last precedes (reaches other member)
        exact ⟨first :: front, last, back, rfl, List.forall_mem_cons.mpr ⟨firstReaches, before⟩,
          behind⟩

end CodeGloss.Gloss
