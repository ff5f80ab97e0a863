import CodeGloss.Gloss.GlossRecord
import CodeGloss.Proofs.Format.RoundTrip
import Mathlib.Algebra.Group.Nat.Defs

/-!
# Stored glossed code

The JSON text of glossed code is read as its record, whatever the code holds and
however the text is indented, as long as no number is too long to be read. Glossed
code is known by its record, so nothing of it is lost.
-/

namespace CodeGloss.Gloss

open Format Json

/-! ## Records of any values -/

/-- Reading the segments undoes writing them. -/
theorem mapM_ofValue_toValue (segments : List SegmentRecord) :
    (segments.map SegmentRecord.toValue).mapM SegmentRecord.ofValue = .ok segments := by
  induction segments with
  | nil => rfl
  | cons segment segments ih =>
      rw [List.map_cons, List.mapM_cons, SegmentRecord.ofValue_toValue, ih]
      rfl

/-- The fields of a record under their names. -/
def GlossRecord.fields (record : GlossRecord) : Fields :=
  [("language".toList, record.language), ("code".toList, record.code),
   ("used_fallback".toList, record.usedFallback),
   ("segments".toList, .list (record.segments.map SegmentRecord.toValue)),
   ("string_replacements".toList, record.stringReplacements),
   ("comment_replacements".toList, record.commentReplacements)]

theorem GlossRecord.ofFields_fields (record : GlossRecord) :
    GlossRecord.ofFields record.fields = .ok record := by
  simp [-List.mapM_map, GlossRecord.fields, GlossRecord.ofFields, required, Fields.get?,
    List.lookup_cons, segmentItems, mapM_ofValue_toValue, bind, Except.bind, pure, Except.pure]

/-- A record whose text tells everything is read back from it. -/
theorem GlossRecord.ofJson_toJson {layout : Layout} (blank : layout.IsBlank) {record : GlossRecord}
    (readable : Readable record.toValue) :
    GlossRecord.ofJson (record.toJson layout) = .ok record := by
  have decoded : decode (record.toJson layout) = .ok (.record record.fields) :=
    readable.decode_encode blank
  rw [GlossRecord.ofJson, decoded]
  simp only [Except.mapError, bind, Except.bind]
  rw [record.ofFields_fields]

/-! ## Records of glossed code -/

/-- Every number of glossed code: the places of the segments and the counts. -/
def GlossedCode.numbers (result : GlossedCode) : List Int :=
  result.stringReplacements :: result.commentReplacements
    :: result.segments.flatMap fun segment => [segment.start, segment.stop]

theorem isBlank_ofWidth (width : Option Int) : (Layout.ofWidth width).IsBlank := by
  cases width with
  | none => trivial
  | some width =>
      intro c member
      rw [List.eq_of_mem_replicate member]
      rfl

theorem readable_segment {segment : Segment}
    (start : (Nat.toDigits 10 segment.start.natAbs).length ≤ digitLimit)
    (stop : (Nat.toDigits 10 segment.stop.natAbs).length ≤ digitLimit) :
    Readable segment.toRecord.toValue := by
  apply Readable.record
  · have named : (["kind", "original", "translated", "start", "end"].map String.toList).Nodup := by
      decide
    exact named
  · simp only [List.forall_mem_cons]
    exact ⟨.text _, .text _, .text _, .int start, .int stop, nofun⟩

theorem readable_glossedCode {result : GlossedCode}
    (short : ∀ number ∈ result.numbers, (Nat.toDigits 10 number.natAbs).length ≤ digitLimit) :
    Readable result.toRecord.toValue := by
  simp only [GlossedCode.numbers, List.forall_mem_cons, List.forall_mem_flatMap,
    List.not_mem_nil] at short
  rcases short with ⟨strings, comments, places⟩
  have segments : ∀ value ∈ result.toRecord.segments.map SegmentRecord.toValue,
      Readable value := by
    intro value member
    rcases List.mem_map.mp member with ⟨record, isRecord, rfl⟩
    rcases List.mem_map.mp isRecord with ⟨segment, inResult, rfl⟩
    rcases places segment inResult with ⟨start, stop, _⟩
    exact readable_segment start stop
  apply Readable.record
  · have named : (["language", "code", "used_fallback", "segments", "string_replacements",
        "comment_replacements"].map String.toList).Nodup := by
      decide
    exact named
  · simp only [List.forall_mem_cons]
    exact ⟨.text _, .text _, .bool _, .list segments, .int strings, .int comments, nofun⟩

/-- Glossed code whose numbers have few enough digits is read back from its JSON text: in
every layout the text gives its record, and the record of no other glossed code. -/
theorem ofJson_toJson_eq_ok_iff {result : GlossedCode}
    (short : ∀ number ∈ result.numbers, (Nat.toDigits 10 number.natAbs).length ≤ digitLimit)
    (width : Option Int) (other : GlossedCode) :
    GlossRecord.ofJson (result.toJson (.ofWidth width)) = .ok other.toRecord ↔ other = result := by
  have reads : GlossRecord.ofJson (result.toJson (.ofWidth width)) = .ok result.toRecord :=
    GlossRecord.ofJson_toJson (isBlank_ofWidth width) (readable_glossedCode short)
  rw [reads, Except.ok.injEq]
  constructor
  · intro same
    exact (GlossedCode.toRecord_injective same).symm
  · rintro rfl
    rfl

/-- Quotes, backslashes, control characters and letters of any alphabet come back, and so
do numbers below zero and the longest ones. -/
theorem ofJson_toJson_eq_ok_iff_marks :
    let longest : Nat := 10 ^ digitLimit - 1
    let result : GlossedCode :=
      { language := "python".toList
        code := "a\\\"\n\t\x00\x1f\x7f\u2028é😀".toList
        usedFallback := true
        segments := [⟨.comment, [], "# \"".toList, -1, longest⟩, ⟨.string, ['\\'], [], 7, 0⟩]
        stringReplacements := -longest
        commentReplacements := 0 }
    (∀ number ∈ result.numbers, (Nat.toDigits 10 number.natAbs).length ≤ digitLimit)
    ∧ GlossRecord.ofJson (result.toJson (.ofWidth (some (-3)))) = .ok result.toRecord := by
  intro longest result
  have bounded {n : Nat} (small : n ≤ longest) : (Nat.toDigits 10 n).length ≤ digitLimit := by
    rw [Nat.length_toDigits_le_iff (by decide) (by decide)]
    exact Nat.lt_of_le_of_lt small (Nat.sub_lt (Nat.pow_pos (by decide)) Nat.one_pos)
  have atLeast : 7 ≤ longest :=
    Nat.le_sub_one_of_lt (Nat.lt_of_lt_of_le (by decide : 7 < 10 ^ 1)
      (Nat.pow_le_pow_right (by decide) (by decide)))
  have short : ∀ number ∈ result.numbers,
      (Nat.toDigits 10 number.natAbs).length ≤ digitLimit := by
    intro number member
    apply bounded
    simp only [GlossedCode.numbers, result, List.flatMap_cons, List.flatMap_nil, List.mem_append,
      List.mem_cons, List.not_mem_nil, or_false] at member
    omega
  exact ⟨short, (ofJson_toJson_eq_ok_iff short (some (-3)) result).mpr rfl⟩

end CodeGloss.Gloss
