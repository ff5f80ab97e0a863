import CodeGloss.Proofs.Gloss.RangeOrder
import Mathlib.Data.List.Pairwise

/-!
# Splicing as edits one at a time

Splicing takes the edits in one pass over the source. It accepts them exactly if every range lies
in the source and of any two edits one ends no later than the other starts, and then the result
is that of the edits applied one at a time from right to left. The order in which the edits are
listed tells only where several insertions at one place go.
-/

namespace CodeGloss.Gloss

open Text

namespace Edit

/-- One of two edits ends no later than the other starts. -/
def Apart (a b : Edit) : Prop :=
  a.stop ≤ b.start ∨ b.stop ≤ a.start

/-- Both edits replace nothing at one place, so that they insert their texts there. -/
def InsertTogether (a b : Edit) : Prop :=
  a.start = a.stop ∧ b.start = b.stop ∧ a.start = b.start

theorem Apart.symm {a b : Edit} (apart : a.Apart b) : b.Apart a :=
  Or.symm apart

theorem InsertTogether.symm {a b : Edit} (together : a.InsertTogether b) : b.InsertTogether a :=
  ⟨together.2.1, together.1, together.2.2.symm⟩

instance : Std.Symm Apart :=
  ⟨fun _ _ => Apart.symm⟩

instance : Std.Symm fun a b => ¬ InsertTogether a b :=
  ⟨fun _ _ apart together => apart together.symm⟩

end Edit

/-- Every edit replaces a range of the source, and no two edits overlap. -/
structure Fit (source : List Char) (edits : List Edit) : Prop where
  inside : ∀ edit ∈ edits, 0 ≤ edit.start ∧ edit.start ≤ edit.stop ∧ edit.stop ≤ source.length
  apart : edits.Pairwise Edit.Apart

/-- Edits applied one at a time, each one when all that are left end no later than it starts. Of
several insertions at one place the one that is listed last is applied first. -/
inductive AppliedFromRight : List Edit → List Char → List Char → Prop
  | done (text : List Char) : AppliedFromRight [] text text
  | apply {front back : List Edit} {edit : Edit} {text result : List Char}
      (rightmost : ∀ other ∈ front ++ back, other.stop ≤ edit.start)
      (lastListed : ∀ other ∈ back, other.range ≠ edit.range)
      (rest : AppliedFromRight (front ++ back) (edit.applyTo text) result) :
      AppliedFromRight (front ++ edit :: back) text result

/-! ## The pass over the source -/

theorem spliceFrom_cons_eq_ok_iff {cursor : Int} {rest result : List Char} {edit : Edit}
    {edits : List Edit} :
    spliceFrom cursor rest (edit :: edits) = .ok result ↔
      (cursor ≤ edit.start ∧ edit.start ≤ edit.stop ∧ edit.stop ≤ cursor + rest.length)
        ∧ ∃ tail, spliceFrom edit.stop (rest.drop (edit.stop - cursor).toNat) edits = .ok tail
          ∧ result = rest.take (edit.start - cursor).toNat ++ edit.replacement ++ tail := by
  by_cases fits : cursor ≤ edit.start ∧ edit.start ≤ edit.stop ∧ edit.stop ≤ cursor + rest.length
  · rw [spliceFrom_cons fits, and_iff_right fits]
    cases spliceFrom edit.stop (rest.drop (edit.stop - cursor).toNat) edits with
    | error bad =>
        constructor
        · intro isOk
          contradiction
        · rintro ⟨tail, isOk, _⟩
          contradiction
    | ok tail =>
        constructor
        · intro isOk
          exact ⟨tail, rfl, (Except.ok.inj isOk).symm⟩
        · rintro ⟨_, isOk, rfl⟩
          rw [← Except.ok.inj isOk]
          rfl
  · rw [spliceFrom, if_pos (by omega)]
    constructor
    · intro isOk
      contradiction
    · intro both
      exact absurd both.1 fits

/-- The pass goes through exactly if the edits stand in order in what it reads. -/
theorem exists_spliceFrom_iff {cursor : Int} {rest : List Char} {edits : List Edit} :
    (∃ result, spliceFrom cursor rest edits = .ok result) ↔
      (∀ edit ∈ edits, cursor ≤ edit.start ∧ edit.start ≤ edit.stop
          ∧ edit.stop ≤ cursor + rest.length)
        ∧ edits.Pairwise fun a b => a.stop ≤ b.start := by
  induction edits generalizing cursor rest with
  | nil => simp
  | cons edit edits ih =>
      have opened : (∃ result, spliceFrom cursor rest (edit :: edits) = .ok result) ↔
          (cursor ≤ edit.start ∧ edit.start ≤ edit.stop ∧ edit.stop ≤ cursor + rest.length)
            ∧ ∃ tail, spliceFrom edit.stop (rest.drop (edit.stop - cursor).toNat) edits =
              .ok tail := by
        simp only [spliceFrom_cons_eq_ok_iff, exists_and_left]
        apply and_congr_right
        intro _
        constructor
        · rintro ⟨_, tail, isOk, _⟩
          exact ⟨tail, isOk⟩
        · rintro ⟨tail, isOk⟩
          exact ⟨_, tail, isOk, rfl⟩
      rw [opened, ih, List.forall_mem_cons, List.pairwise_cons, List.length_drop]
      constructor
      · rintro ⟨fits, later, ordered⟩
        constructor
        · constructor
          · exact fits
          · intro other member
            have place := later other member
            omega
        · exact ⟨fun other member => (later other member).1, ordered⟩
      · rintro ⟨⟨fits, later⟩, behind, ordered⟩
        constructor
        · exact fits
        · constructor
          · intro other member
            have place := later other member
            have order := behind other member
            omega
          · exact ordered

/-- What the pass makes of the rest of a text, the edits make of the text one at a time. -/
theorem applyEach_of_spliceFrom {before rest result : List Char} {edits : List Edit}
    (spliced : spliceFrom before.length rest edits = .ok result) :
    applyEach edits (before ++ rest) = before ++ result := by
  induction edits generalizing before rest result with
  | nil =>
      rw [← Except.ok.inj spliced]
      rfl
  | cons edit edits ih =>
      rcases spliceFrom_cons_eq_ok_iff.mp spliced with ⟨fits, tail, splicedTail, rfl⟩
      have parts : rest = rest.take (edit.start - before.length).toNat
          ++ (slice rest (edit.start - before.length).toNat (edit.stop - before.length).toNat
            ++ rest.drop (edit.stop - before.length).toNat) := by
        rw [← drop_eq_slice_append rest (by omega), List.take_append_drop]
      have gapLength : (rest.take (edit.start - before.length).toNat).length =
          edit.start - before.length := by
        rw [List.length_take]
        omega
      have oldLength : (slice rest (edit.start - before.length).toNat
          (edit.stop - before.length).toNat).length = edit.stop - edit.start := by
        rw [length_slice]
        omega
      generalize rest.take (edit.start - before.length).toNat = gap at *
      generalize slice rest (edit.start - before.length).toNat
        (edit.stop - before.length).toNat = old at *
      generalize rest.drop (edit.stop - before.length).toNat = after at *
      have cursor : edit.stop = ((before ++ gap ++ old).length : Int) := by
        rw [List.length_append, List.length_append]
        omega
      rw [cursor] at splicedTail
      have behind := ih splicedTail
      simp only [List.append_assoc] at behind
      rw [applyEach_cons, parts, behind, ← List.append_assoc before, Edit.applyTo_append]
      · simp only [List.append_assoc]
      · rw [List.length_append]
        omega
      · rw [List.length_append]
        omega

/-! ## Edits that fit -/

theorem splice_eq (source : List Char) (edits : List Edit) :
    splice source edits = spliceFrom 0 source (inRangeOrder edits) :=
  rfl

/-- In order, edits that do not overlap follow each other. -/
theorem fit_iff_inRangeOrder {source : List Char} {edits : List Edit} :
    Fit source edits ↔
      (∀ edit ∈ inRangeOrder edits, 0 ≤ edit.start ∧ edit.start ≤ edit.stop
          ∧ edit.stop ≤ 0 + (source.length : Int))
        ∧ (inRangeOrder edits).Pairwise fun a b => a.stop ≤ b.start := by
  simp only [(inRangeOrder_perm edits).mem_iff, Int.zero_add]
  constructor
  · rintro ⟨inside, apart⟩
    constructor
    · exact inside
    · have stillApart := apart.perm (inRangeOrder_perm edits).symm Edit.Apart.symm
      apply ((pairwise_inRangeOrder edits).and stillApart).imp_of_mem
      rintro a b aMem bMem ⟨precedes, apart⟩
      have aInside := inside a ((inRangeOrder_perm edits).mem_iff.mp aMem)
      have bInside := inside b ((inRangeOrder_perm edits).mem_iff.mp bMem)
      rw [Edit.precedes_iff] at precedes
      rcases apart with aFirst | bFirst <;> omega
  · rintro ⟨inside, ordered⟩
    constructor
    · exact inside
    · exact (ordered.imp Or.inl).perm (inRangeOrder_perm edits) Edit.Apart.symm

theorem exists_splice_iff {source : List Char} {edits : List Edit} :
    (∃ result, splice source edits = .ok result) ↔ Fit source edits := by
  rw [splice_eq, exists_spliceFrom_iff, fit_iff_inRangeOrder]

theorem applyEach_of_splice {source result : List Char} {edits : List Edit}
    (spliced : splice source edits = .ok result) :
    applyEach (inRangeOrder edits) source = result :=
  @applyEach_of_spliceFrom [] source result _ spliced

/-- A draft can be finished exactly if its edits fit its source. -/
theorem Draft.exists_finish_iff {draft : Draft} :
    (∃ result, draft.finish = .ok result) ↔ Fit draft.source draft.edits := by
  rw [← exists_splice_iff, finish]
  cases splice draft.source draft.edits with
  | error bad => simp [Except.map]
  | ok code => simp [Except.map]

/-! ## From right to left -/

/-- Edits that do not overlap can be applied from right to left. -/
theorem appliedFromRight_applyEach {edits : List Edit}
    (forward : ∀ edit ∈ edits, edit.start ≤ edit.stop) (apart : edits.Pairwise Edit.Apart)
    (text : List Char) : AppliedFromRight edits text (applyEach (inRangeOrder edits) text) := by
  induction length : edits.length generalizing edits text with
  | zero =>
      rw [List.length_eq_zero_iff.mp length, inRangeOrder_nil]
      exact .done text
  | succ count ih =>
      rcases exists_last (List.ne_nil_of_length_eq_add_one length) with
        ⟨front, edit, back, rfl, before, behind⟩
      have isMiddle : (front ++ edit :: back).Perm (edit :: (front ++ back)) := List.perm_middle
      have forward' := fun other member => forward other (isMiddle.mem_iff.mpr member)
      have apart' := apart.perm isMiddle Edit.Apart.symm
      rw [List.forall_mem_cons] at forward'
      rw [List.pairwise_cons] at apart'
      have orders : ∀ other ∈ front ++ back,
          other.precedes edit = true ∨ edit.precedes other = false := by
        intro other member
        rw [List.mem_append] at member
        exact member.imp (before other) (behind other)
      rw [inRangeOrder_append_cons before behind, applyEach, List.foldr_append]
      apply AppliedFromRight.apply
      · intro other member
        have order := orders other member
        have otherForward := forward'.2 other member
        rw [Bool.eq_false_iff, ne_eq, Edit.precedes_iff, Edit.precedes_iff] at order
        rcases apart'.1 other member with editFirst | otherFirst <;> omega
      · intro other member sameRange
        have order := behind other member
        rw [Edit.range_eq_iff] at sameRange
        rw [Bool.eq_false_iff, ne_eq, Edit.precedes_iff] at order
        omega
      · apply ih forward'.2 apart'.2
        rw [isMiddle.length_eq, List.length_cons] at length
        exact Nat.succ.inj length

/-- Applied from right to left, edits have one result. -/
theorem AppliedFromRight.eq_applyEach {edits : List Edit} {text result : List Char}
    (applied : AppliedFromRight edits text result)
    (forward : ∀ edit ∈ edits, edit.start ≤ edit.stop) :
    result = applyEach (inRangeOrder edits) text := by
  induction applied with
  | done text =>
      rw [inRangeOrder_nil]
      rfl
  | @apply front back edit text result rightmost lastListed _ ih =>
      have isMiddle : (front ++ edit :: back).Perm (edit :: (front ++ back)) := List.perm_middle
      have forward' := fun other member => forward other (isMiddle.mem_iff.mpr member)
      rw [List.forall_mem_cons] at forward'
      rw [ih forward'.2, inRangeOrder_append_cons, applyEach, applyEach, List.foldr_append]
      · rfl
      · intro other member
        have reaches := rightmost other (List.mem_append_left back member)
        have otherForward := forward'.2 other (List.mem_append_left back member)
        rw [Edit.precedes_iff]
        omega
      · intro other member
        have reaches := rightmost other (List.mem_append_right front member)
        have otherForward := forward'.2 other (List.mem_append_right front member)
        have differs := lastListed other member
        rw [ne_eq, Edit.range_eq_iff] at differs
        rw [Bool.eq_false_iff, ne_eq, Edit.precedes_iff]
        omega

theorem splice_eq_ok_iff {source result : List Char} {edits : List Edit} :
    splice source edits = .ok result ↔
      Fit source edits ∧ AppliedFromRight edits source result := by
  constructor
  · intro spliced
    have fit := exists_splice_iff.mp ⟨result, spliced⟩
    rw [← applyEach_of_splice spliced]
    exact ⟨fit, appliedFromRight_applyEach (fun edit member => (fit.inside edit member).2.1)
      fit.apart source⟩
  · rintro ⟨fit, applied⟩
    rcases exists_splice_iff.mpr fit with ⟨spliced, isOk⟩
    rw [isOk, applied.eq_applyEach fun edit member => (fit.inside edit member).2.1,
      applyEach_of_splice isOk]

/-! ## The order of the list -/

/-- Whether edits are refused, and for which range, hangs on their ranges alone. -/
theorem spliceFrom_error_congr {cursor : Int} {rest : List Char} {edits others : List Edit}
    {bad : BadEdit} (ranges : edits.map Edit.range = others.map Edit.range)
    (refused : spliceFrom cursor rest edits = .error bad) :
    spliceFrom cursor rest others = .error bad := by
  induction edits generalizing cursor rest others bad with
  | nil => contradiction
  | cons edit edits ih =>
      cases others with
      | nil => contradiction
      | cons other others =>
          rw [List.map_cons, List.map_cons, List.cons.injEq, Edit.range_eq_iff] at ranges
          rcases ranges with ⟨⟨start, stop⟩, ranges⟩
          by_cases fits : cursor ≤ edit.start ∧ edit.start ≤ edit.stop
              ∧ edit.stop ≤ cursor + rest.length
          · rw [spliceFrom_cons fits] at refused
            cases inner : spliceFrom edit.stop (rest.drop (edit.stop - cursor).toNat) edits with
            | ok tail =>
                rw [inner] at refused
                contradiction
            | error first =>
                rw [inner] at refused
                rw [spliceFrom_cons (by rwa [← start, ← stop]), ← stop, ih ranges inner]
                exact refused
          · rw [spliceFrom, if_pos (by omega)] at refused ⊢
            rw [← start, ← stop]
            exact refused

/-- The edit that is refused is one of the list. -/
theorem exists_edit_of_spliceFrom {cursor : Int} {rest : List Char} {edits : List Edit}
    {bad : BadEdit} (refused : spliceFrom cursor rest edits = .error bad) :
    ∃ edit ∈ edits, bad = ⟨edit.start, edit.stop⟩ := by
  induction edits generalizing cursor rest bad with
  | nil => contradiction
  | cons edit edits ih =>
      by_cases fits : cursor ≤ edit.start ∧ edit.start ≤ edit.stop
          ∧ edit.stop ≤ cursor + rest.length
      · rw [spliceFrom_cons fits] at refused
        cases inner : spliceFrom edit.stop (rest.drop (edit.stop - cursor).toNat) edits with
        | ok tail =>
            rw [inner] at refused
            contradiction
        | error first =>
            rw [inner] at refused
            rcases ih inner with ⟨other, member, isBad⟩
            exact ⟨other, List.mem_cons_of_mem edit member,
              (Except.error.inj refused).symm.trans isBad⟩
      · rw [spliceFrom, if_pos (by omega)] at refused
        exact ⟨edit, List.mem_cons_self, (Except.error.inj refused).symm⟩

theorem exists_edit_of_splice {source : List Char} {edits : List Edit} {bad : BadEdit}
    (refused : splice source edits = .error bad) :
    ∃ edit ∈ edits, bad = ⟨edit.start, edit.stop⟩ := by
  rcases exists_edit_of_spliceFrom refused with ⟨edit, member, isBad⟩
  exact ⟨edit, (inRangeOrder_perm edits).mem_iff.mp member, isBad⟩

/-- The same edits in another order are spliced alike, if no two of them insert at one place. -/
theorem splice_of_perm {source : List Char} {edits others : List Edit} (perm : edits.Perm others)
    (single : edits.Pairwise fun a b => ¬ a.InsertTogether b) :
    splice source others = splice source edits := by
  have ranges := map_range_inRangeOrder perm
  cases spliced : splice source edits with
  | error bad => exact spliceFrom_error_congr ranges spliced
  | ok result =>
      have fit := exists_splice_iff.mp ⟨result, spliced⟩
      have same : inRangeOrder edits = inRangeOrder others := by
        apply List.Perm.eq_of_pairwise _ (pairwise_inRangeOrder edits)
          (pairwise_inRangeOrder others)
        · exact ((inRangeOrder_perm edits).trans perm).trans (inRangeOrder_perm others).symm
        · intro a b aMem bMem first second
          have aMember := (inRangeOrder_perm edits).mem_iff.mp aMem
          have bMember := perm.mem_iff.mpr ((inRangeOrder_perm others).mem_iff.mp bMem)
          have aInside := fit.inside a aMember
          rw [Edit.precedes_iff] at first second
          -- two edits of one range do not overlap only if both insert
          by_contra differ
          have apart := fit.apart.forall aMember bMember differ
          apply single.forall aMember bMember differ
          unfold Edit.Apart at apart
          unfold Edit.InsertTogether
          omega
      rw [splice_eq, ← same]
      exact spliced

/-- Splicing accepts edits exactly if they lie in the source and do not overlap, and refuses one
of them otherwise. Its result is that of the edits applied one at a time from right to left. If
no two edits insert at one place, the order of the list makes no difference. -/
theorem splice_appliesFromRight (source : List Char) (edits : List Edit) :
    ((∃ result, splice source edits = .ok result) ↔ Fit source edits)
      ∧ (¬ Fit source edits →
        ∃ edit ∈ edits, splice source edits = .error ⟨edit.start, edit.stop⟩)
      ∧ (∀ result, splice source edits = .ok result ↔
        Fit source edits ∧ AppliedFromRight edits source result)
      ∧ ((edits.Pairwise fun a b => ¬ a.InsertTogether b) →
        ∀ others, edits.Perm others → splice source others = splice source edits) := by
  constructor
  · exact exists_splice_iff
  · constructor
    · intro misfit
      cases spliced : splice source edits with
      | ok result => exact absurd (exists_splice_iff.mp ⟨result, spliced⟩) misfit
      | error bad =>
          rcases exists_edit_of_spliceFrom spliced with ⟨edit, member, rfl⟩
          exact ⟨edit, (inRangeOrder_perm edits).mem_iff.mp member, rfl⟩
    · constructor
      · exact fun result => splice_eq_ok_iff
      · exact fun single others perm => splice_of_perm perm single

/-- Ranges may touch, and an insertion may stand at the start of another range. Ranges that
overlap are refused. -/
theorem splice_appliesFromRight_touching :
    let source := "abcdef".toList
    let edits : List Edit :=
      [⟨3, 5, "X".toList⟩, ⟨0, 3, "-".toList⟩, ⟨0, 0, "<".toList⟩, ⟨6, 6, ">".toList⟩]
    let overlapping : List Edit := [⟨1, 3, "Y".toList⟩, ⟨0, 2, "Z".toList⟩]
    (edits.Pairwise fun a b => ¬ a.InsertTogether b) ∧ edits.Perm edits.reverse
      ∧ AppliedFromRight edits source "<-Xf>".toList
      ∧ splice source edits.reverse = splice source edits
      ∧ ¬ Fit source overlapping
      ∧ ∃ edit ∈ overlapping, splice source overlapping = .error ⟨edit.start, edit.stop⟩ := by
  intro source edits overlapping
  have single : edits.Pairwise fun a b => ¬ a.InsertTogether b := by
    simp [edits, Edit.InsertTogether]
  have perm : edits.Perm edits.reverse := edits.reverse_perm.symm
  have misfit : ¬ Fit source overlapping := by
    intro fit
    have apart := List.rel_of_pairwise_cons fit.apart List.mem_cons_self
    simp [Edit.Apart] at apart
  have main := splice_appliesFromRight source edits
  have spliced : splice source edits = .ok "<-Xf>".toList := by
    have ordered : inRangeOrder edits = [⟨0, 0, "<".toList⟩, ⟨0, 3, "-".toList⟩,
        ⟨3, 5, "X".toList⟩, ⟨6, 6, ">".toList⟩] := by
      simp [edits, inRangeOrder_cons, Edit.precedes]
    rw [splice_eq, ordered]
    decide
  exact ⟨single, perm, ((main.2.2.1 _).mp spliced).2, main.2.2.2 single _ perm, misfit,
    (splice_appliesFromRight source overlapping).2.1 misfit⟩

end CodeGloss.Gloss
