import CodeGloss.Proofs.Gloss.Omission
import CodeGloss.Proofs.Gloss.Shapes
import CodeGloss.Proofs.Gloss.Splicing
import CodeGloss.Proofs.Syntax.ModuleNames

/-!
# Glossing without the names of modules

If a source can be glossed with the strings that name modules, it can be glossed without them, and
then the result differs in the segments of those strings and in nothing else.
-/

namespace CodeGloss.Gloss

open Glossary Syntax Text

/-- The segment has the characters of the node. -/
def Segment.Covers (source : List Char) (s : Segment) (node : Node) : Prop :=
  (placeOf? source node.start).map Int.ofNat = some s.start
    ∧ (placeOf? source node.stop).map Int.ofNat = some s.stop

instance (source : List Char) (s : Segment) (node : Node) : Decidable (s.Covers source node) :=
  inferInstanceAs (Decidable (_ ∧ _))

/-! ## What can be glossed -/

section Glossed

variable {source language : List Char} {entries : List Entry} {passages : List Passage}
  {result : GlossedCode}

theorem isPlaced_of_glossPassage {draft next : Draft} {p : Passage}
    (glossed : glossPassage entries draft p = .ok next) : IsPlaced draft.source p := by
  rw [glossPassage] at glossed
  split at glossed
  · rename_i start stop isStart isStop
    exact ⟨start, stop, isStart, isStop⟩
  · contradiction

theorem isPlaced_of_foldlM_glossPassage {draft last : Draft}
    (glossed : passages.foldlM (glossPassage entries) draft = .ok last) :
    ∀ p ∈ passages, IsPlaced draft.source p := by
  induction passages generalizing draft with
  | nil => exact nofun
  | cons p passages ih =>
      rw [List.foldlM_cons] at glossed
      cases isNext : glossPassage entries draft p with
      | error e =>
          rw [isNext] at glossed
          contradiction
      | ok next =>
          rw [isNext] at glossed
          have later := ih glossed
          rw [eq_recordAll_of_glossPassage isNext, Draft.source_recordAll] at later
          rw [List.forall_mem_cons]
          exact ⟨isPlaced_of_glossPassage isNext, later⟩

theorem isPlaced_of_glossPassages
    (glossed : glossPassages source passages entries language = .ok result) :
    ∀ p ∈ passages, IsPlaced source p := by
  rcases exists_draft_of_glossPassages glossed with ⟨draft, isDraft, _⟩
  intro p member
  exact isPlaced_of_foldlM_glossPassage isDraft p
    ((commentsLast_perm passages).mem_iff.mpr member)

/-- The segments of what is glossed have characters and share none. -/
theorem disjoint_of_glossPassages (keys : ∀ entry ∈ entries, entry.key ≠ [])
    (glossed : glossPassages source passages entries language = .ok result) :
    (∀ s ∈ (commentsLast passages).filterMap (passageSegment? entries source),
        s.start < s.stop ∧ s.stop ≤ source.length)
      ∧ ((commentsLast passages).filterMap (passageSegment? entries source)).Pairwise
        Segment.Apart := by
  have finished := finish_of_glossPassages glossed
  have fit := Draft.exists_finish_iff.mp ⟨result, finished⟩
  have inStep := (Draft.inStep_empty source language).recordAll
    ((commentsLast passages).filterMap (passageOffer? entries source))
  have segments : ((Draft.empty source language).recordAll
      ((commentsLast passages).filterMap (passageOffer? entries source))).segments =
        (commentsLast passages).filterMap (passageSegment? entries source) := by
    rw [Draft.segments_recordAll]
    exact List.filterMap_filterMap
  rw [inStep.edits, segments, Draft.source_recordAll] at fit
  constructor
  · intro s member
    rcases List.mem_filterMap.mp member with ⟨p, _, isSegment⟩
    have inside : 0 ≤ s.start ∧ s.start ≤ s.stop ∧ s.stop ≤ source.length :=
      fit.inside s.edit (List.mem_map_of_mem member)
    have nonempty := start_ne_stop_of_passageSegment? keys isSegment
    omega
  · exact (List.pairwise_map.mp fit.apart).imp fun editsApart => editsApart

/-- What is glossed is an exact patch, with the segments of the passages. -/
theorem weave_of_glossPassages (keys : ∀ entry ∈ entries, entry.key ≠ [])
    (glossed : glossPassages source passages entries language = .ok result) :
    result.segments =
        inSourceOrder ((commentsLast passages).filterMap (passageSegment? entries source))
      ∧ Weave 0 result.segments source result.code ∧ IsExactPatch source result := by
  rcases disjoint_of_glossPassages keys glossed with ⟨inside, apart⟩
  have placed := isPlaced_of_glossPassages glossed
  rcases exists_glossPassages_of_apart placed inside apart language with ⟨same, isSame, facts⟩
  rw [glossed, Except.ok.injEq] at isSame
  rw [isSame]
  exact facts

/-- Some of the passages that can be glossed together can be glossed. -/
theorem exists_glossPassages_of_sublist (keys : ∀ entry ∈ entries, entry.key ≠ [])
    (glossed : glossPassages source passages entries language = .ok result)
    {fewer : List Passage} (sublist : fewer.Sublist passages) :
    ∃ less, glossPassages source fewer entries language = .ok less := by
  have last : (commentsLast fewer).Sublist (commentsLast passages) :=
    (sublist.filter _).append (sublist.filter _)
  have segments := last.filterMap (passageSegment? entries source)
  rcases disjoint_of_glossPassages keys glossed with ⟨inside, apart⟩
  rcases exists_glossPassages_of_apart
    (fun p member => isPlaced_of_glossPassages glossed p (sublist.subset member))
    (fun s member => inside s (segments.subset member)) (apart.sublist segments) language with
    ⟨less, isLess, _⟩
  exact ⟨less, isLess⟩

end Glossed

/-! ## Segments of names -/

section Names

variable {source : List Char} {entries : List Entry} {s : Segment} {p : Passage} {node : Node}

theorem covers_of_passageSegment? (covers : p.Covers node)
    (isSegment : passageSegment? entries source p = some s) : s.Covers source node := by
  rcases exists_places_of_passageSegment? isSegment with
    ⟨start, stop, isStart, isStop, _, starts, stops⟩
  rw [covers.1] at isStart
  rw [covers.2] at isStop
  rw [Segment.Covers, isStart, isStop, starts, stops]
  exact ⟨rfl, rfl⟩

/-- A segment with characters is not of a node that its passage avoids. -/
theorem not_covers_of_avoids (nonempty : s.start < s.stop) (avoids : p.Avoids node)
    (isSegment : passageSegment? entries source p = some s) : ¬ s.Covers source node := by
  rintro ⟨first, last⟩
  rcases exists_places_of_passageSegment? isSegment with
    ⟨start, stop, isStart, isStop, _, starts, stops⟩
  rcases Option.map_eq_some_iff.mp first with ⟨nodeStart, isNodeStart, sameStart⟩
  rcases Option.map_eq_some_iff.mp last with ⟨nodeStop, isNodeStop, sameStop⟩
  simp only [Int.ofNat_eq_natCast] at sameStart sameStop
  rcases avoids with before | behind
  · have order := placeOf?_mono before isStop isNodeStart
    omega
  · have order := placeOf?_mono behind isNodeStop isStart
    omega

/-- A node has bytes if a segment has its characters. -/
theorem start_lt_stop_of_covers (nonempty : s.start < s.stop) (covers : s.Covers source node) :
    node.start < node.stop := by
  rcases Option.map_eq_some_iff.mp covers.1 with ⟨start, isStart, sameStart⟩
  rcases Option.map_eq_some_iff.mp covers.2 with ⟨stop, isStop, sameStop⟩
  simp only [Int.ofNat_eq_natCast] at sameStart sameStop
  apply Nat.lt_of_not_le
  intro empty
  have order := placeOf?_mono empty isStop isStart
  omega

/-- Passages that are no comments make segments of strings. -/
theorem kind_of_passageSegment? (noComment : p.kind ≠ .comment)
    (isSegment : passageSegment? entries source p = some s) : s.kind = .string := by
  rcases exists_places_of_passageSegment? isSegment with ⟨start, stop, _, _, isMade, _, _⟩
  rcases Option.bind_eq_some_iff.mp isMade with ⟨offer, isOffer, made⟩
  rw [(Offer.segment?_eq_some_iff.mp made).1]
  dsimp only
  generalize p.kind = kind at isOffer noComment
  cases kind
  · exact kind_of_mem_quotedOffer? isOffer
  · exact kind_of_mem_quotedOffer? isOffer
  · rw [← Option.some.inj isOffer]
  · rw [← Option.some.inj isOffer]
  · contradiction

theorem commentsLast_filter (passages : List Passage) (keep : Passage → Bool) :
    commentsLast (passages.filter keep) = (commentsLast passages).filter keep := by
  simp only [commentsLast, List.filter_append, List.filter_filter, Bool.and_comm]

/-- Without the passages of names the segments that have the characters of names are missing. -/
theorem filterMap_passageSegment?_skip {root : Node} (nested : root.Nested)
    (nonempty : ∀ s ∈ (commentsLast (passagesOf false (Utf8.encode source) root)).filterMap
      (passageSegment? entries source), s.start < s.stop) :
    (commentsLast (passagesOf true (Utf8.encode source) root)).filterMap
        (passageSegment? entries source) =
      ((commentsLast (passagesOf false (Utf8.encode source) root)).filterMap
        (passageSegment? entries source)).filter fun s =>
          ∀ name ∈ skippedNames (Utf8.encode source) root, ¬ s.Covers source name.node := by
  rw [passagesOf_skip nested, commentsLast_filter, List.filterMap_filter, List.filter_filterMap]
  apply List.filterMap_congr
  intro p member
  have inTree := (commentsLast_perm _).mem_iff.mp member
  cases isSegment : passageSegment? entries source p with
  | none => simp
  | some s =>
      have sNonempty := nonempty s (List.mem_filterMap.mpr ⟨p, member, isSegment⟩)
      have same : ∀ name ∈ skippedNames (Utf8.encode source) root,
          p.Covers name.node ↔ s.Covers source name.node := by
        intro name isSkipped
        rcases mem_skippedNames.mp isSkipped with ⟨reaches, isString, _⟩
        constructor
        · exact fun covers => covers_of_passageSegment? covers isSegment
        · intro covers
          rcases avoids_or_covers nested reaches isString inTree with avoids | ⟨pCovers, _⟩
          · exact absurd covers (not_covers_of_avoids sNonempty avoids isSegment)
          · exact pCovers
      have kept : (∀ name ∈ skippedNames (Utf8.encode source) root, ¬ p.Covers name.node) ↔
          ∀ name ∈ skippedNames (Utf8.encode source) root, ¬ s.Covers source name.node :=
        forall₂_congr fun name isSkipped => not_congr (same name isSkipped)
      simp only [Option.filter_some, kept]

end Names

/-! ## Two glossings -/

/-- The segment has the characters of a string that the search comes by and that is such a
name. -/
def OfName (isName : Visit → Prop) (source : List Char) (root : Node) (s : Segment) : Prop :=
  ∃ visit ∈ reached [.root root], visit.node.kind = .string ∧ isName visit
    ∧ s.Covers source visit.node

section Skipping

variable {source language : List Char} {entries : List Entry} {root : Node} {full : GlossedCode}

theorem ofName_iff_of_nonempty (nested : root.Nested) {s : Segment} (nonempty : s.start < s.stop) :
    OfName (Visit.IsSkipped (Utf8.encode source)) source root s ↔
      ∃ name ∈ skippedNames (Utf8.encode source) root, s.Covers source name.node := by
  constructor
  · rintro ⟨visit, reaches, isString, isSkipped, covers⟩
    have placed := (placed_of_mem_reached nested visit reaches).2
    have isName := (isModuleName_iff placed (start_lt_stop_of_covers nonempty covers)).mpr isSkipped
    exact ⟨visit, mem_skippedNames.mpr ⟨reaches, isString, isName⟩, covers⟩
  · rintro ⟨visit, isName, covers⟩
    rcases mem_skippedNames.mp isName with ⟨reaches, isString, isName⟩
    have placed := (placed_of_mem_reached nested visit reaches).2
    have isSkipped := (isModuleName_iff placed (start_lt_stop_of_covers nonempty covers)).mp isName
    exact ⟨visit, reaches, isString, isSkipped, covers⟩

/-- What is glossed with the names of modules can be glossed without, and the result leaves out
their segments. -/
theorem exists_leavesOut_of_glossPassages (nested : root.Nested)
    (keys : ∀ entry ∈ entries, entry.key ≠ [])
    (glossed : glossPassages source (passagesOf false (Utf8.encode source) root) entries language =
      .ok full) :
    ∃ less, glossPassages source (passagesOf true (Utf8.encode source) root) entries language =
        .ok less
      ∧ LeavesOut (OfName (Visit.IsSkipped (Utf8.encode source)) source root) full less := by
  rcases disjoint_of_glossPassages keys glossed with ⟨inside, apart⟩
  have nonempty := fun s member => (inside s member).1
  have fewer : (passagesOf true (Utf8.encode source) root).Sublist
      (passagesOf false (Utf8.encode source) root) := by
    rw [passagesOf_skip nested]
    exact List.filter_sublist
  obtain ⟨less, isLess⟩ := exists_glossPassages_of_sublist keys glossed fewer
  rcases weave_of_glossPassages keys glossed with ⟨segments, weave, patch⟩
  rcases weave_of_glossPassages keys isLess with ⟨lessSegments, lessWeave, lessPatch⟩
  rcases isStructural_of_glossPassages glossed with ⟨isLanguage, structural⟩
  rcases isStructural_of_glossPassages isLess with ⟨isLessLanguage, lessStructural⟩
  refine ⟨less, isLess, ?_⟩
  apply leavesOut_of_filter (isLessLanguage.trans isLanguage.symm)
    (lessStructural.usedFallback.trans structural.usedFallback.symm) patch lessPatch weave lessWeave
  · rw [lessSegments, segments, filterMap_passageSegment?_skip nested nonempty,
      inSourceOrder_filter nonempty apart]
  · intro s member
    rw [ofName_iff_of_nonempty nested (patch.inside s member).2.1]
    simp
  · rintro s member ⟨visit, reaches, isString, _, covers⟩
    rcases exists_passage_of_mem_segments glossed member with ⟨p, inTree, isSegment⟩
    rcases avoids_or_covers nested reaches isString inTree with avoids | ⟨_, noComment⟩
    · have sNonempty := (patch.inside s member).2.1
      exact absurd covers (not_covers_of_avoids sNonempty avoids isSegment)
    · exact kind_of_passageSegment? noComment isSegment

end Skipping

/-- With a nested tree a source can be glossed if the tree lies in it. If it can be glossed with the
names of modules, it can be glossed without. The result then lacks the segments of the strings that
name a module, or start where an import or export has an empty node for it. All others it has, and
as many comments; its code is that of the other result with the missing segments taken back, so that
both codes agree elsewhere. -/
theorem skipping_leavesOutNames {parser : Parser} {grammar source : List Char} {root : Node}
    (replies : parser grammar source = .tree root) (noError : root.kind ≠ .error)
    (nested : root.Nested) (terms : List Term) (vocabulary : Vocabulary) (language : List Char) :
    ∃ parsed skipping, parse parser grammar false source = .ok parsed
      ∧ parse parser grammar true source = .ok skipping
      ∧ (root.stop ≤ (Utf8.encode source).length →
        ∃ full, glossPassages source parsed.passages (dictionaryOf terms vocabulary) language =
          .ok full)
      ∧ ∀ full, glossPassages source parsed.passages (dictionaryOf terms vocabulary) language =
          .ok full →
        ∃ less, glossPassages source skipping.passages (dictionaryOf terms vocabulary) language =
            .ok less
          ∧ LeavesOut (OfName (Visit.IsSkipped (Utf8.encode source)) source root) full less := by
  have keys : ∀ entry ∈ dictionaryOf terms vocabulary, entry.key ≠ [] :=
    fun entry member => (ne_nil_of_mem_dictionaryOf member).1
  refine ⟨.ofTree false (Utf8.encode source) root, .ofTree true (Utf8.encode source) root,
    ?_, ?_, ?_, ?_⟩
  · rw [parse, replies]
    exact if_neg noError
  · rw [parse, replies]
    exact if_neg noError
  · intro inData
    obtain ⟨full, glossed, _⟩ := exists_glossPassages keys
      (fun p member => liesIn_of_mem_passagesOf nested inData member)
      (pairwise_passagesOf false (Utf8.encode source) nested) language
    exact ⟨full, glossed⟩
  · exact fun full glossed => exists_leavesOut_of_glossPassages nested keys glossed

/-- The names behind `import` and in a call to `require` stay, the string in another call and the
comment do not. -/
theorem skipping_leavesOutNames_calls :
    let source := "import 'user';require('user');f('user')//user".toList
    let vocabulary : Vocabulary := [("user".toList, .text "usuario".toList)]
    let importing : Node := ⟨.importStatement, 0, 13, false, some 0, none, [.leaf .string 7 13]⟩
    let requiring : Node := ⟨.call, 14, 29, false, none, some 0, [.leaf .identifier 14 21,
      ⟨.arguments, 21, 29, false, none, none, [.leaf .string 22 28]⟩]⟩
    let calling : Node := ⟨.call, 30, 39, false, none, some 0, [.leaf .identifier 30 31,
      ⟨.arguments, 31, 39, false, none, none, [.leaf .string 32 38]⟩]⟩
    let root : Node :=
      ⟨.other, 0, 45, false, none, none, [importing, requiring, calling, .leaf .comment 39 45]⟩
    let parser : Parser := fun _ _ => .tree root
    root.kind ≠ .error ∧ root.Nested
    ∧ ∃ parsed skipping full less, parse parser "tsx".toList false source = .ok parsed
      ∧ parse parser "tsx".toList true source = .ok skipping
      ∧ glossPassages source parsed.passages (dictionaryOf [] vocabulary) "js".toList = .ok full
      ∧ glossPassages source skipping.passages (dictionaryOf [] vocabulary) "js".toList = .ok less
      ∧ LeavesOut (OfName (Visit.IsSkipped (Utf8.encode source)) source root) full less := by
  intro source vocabulary importing requiring calling root parser
  have noError : root.kind ≠ .error := by decide
  have nested : root.Nested := by decide +kernel
  have inData : root.stop ≤ (Utf8.encode source).length := by decide
  have replies : parser "tsx".toList source = .tree root := rfl
  obtain ⟨parsed, skipping, isParsed, isSkipping, succeeds, leavesOut⟩ :=
    skipping_leavesOutNames replies noError nested [] vocabulary "js".toList
  obtain ⟨full, isFull⟩ := succeeds inData
  obtain ⟨less, isLess, facts⟩ := leavesOut full isFull
  exact ⟨noError, nested, parsed, skipping, full, less, isParsed, isSkipping, isFull, isLess, facts⟩

/-- A string that starts where the statement has an empty node for its module is skipped, though
it is not the module of the statement. -/
theorem not_leavesOut_namesModule :
    let source := "import 'user'".toList
    let vocabulary : Vocabulary := [("user".toList, .text "usuario".toList)]
    let empty : Node := ⟨.string, 7, 7, true, none, none, []⟩
    let importing : Node :=
      ⟨.importStatement, 0, 13, false, some 0, none, [empty, .leaf .string 7 13]⟩
    let root : Node := ⟨.other, 0, 13, false, none, none, [importing]⟩
    root.kind ≠ .error ∧ root.Nested
    ∧ ∃ full less, glossPassages source (passagesOf false (Utf8.encode source) root)
        (dictionaryOf [] vocabulary) "js".toList = .ok full
      ∧ glossPassages source (passagesOf true (Utf8.encode source) root)
        (dictionaryOf [] vocabulary) "js".toList = .ok less
      ∧ ¬ LeavesOut (OfName (Visit.NamesModule (Utf8.encode source)) source root) full less := by
  intro source vocabulary empty importing root
  have full : glossPassages source (passagesOf false (Utf8.encode source) root)
      (dictionaryOf [] vocabulary) "js".toList = .ok ⟨"js".toList, "import 'usuario'".toList, false,
        [⟨.string, "'user'".toList, "'usuario'".toList, 7, 13⟩], 1, 0⟩ := by
    decide +kernel
  have less : glossPassages source (passagesOf true (Utf8.encode source) root)
      (dictionaryOf [] vocabulary) "js".toList = .ok (.unchanged "js".toList source) := by
    decide +kernel
  refine ⟨by decide, by decide +kernel, _, _, full, less, ?_⟩
  intro leavesOut
  rcases (leavesOut.leftOut _ List.mem_cons_self).mp List.not_mem_nil with
    ⟨visit, reaches, isString, names, covers⟩
  have nodes : reached [.root root] = [.root root, ⟨importing, some root, none⟩,
      ⟨empty, some importing, some root⟩, ⟨.leaf .string 7 13, some importing, some root⟩] := by
    simp [reached_cons, reached_nil, descents, Visit.children, Visit.root, root, importing, empty,
      Node.leaf]
  simp only [nodes, List.mem_cons, List.not_mem_nil, or_false] at reaches
  rcases reaches with rfl | rfl | rfl | rfl
  · contradiction
  · contradiction
  · revert covers
    decide
  · rcases names with ⟨isParent, _, isModule⟩ | ⟨isParent, areArguments, _, _, _, _⟩
    · cases isParent
      exact absurd (congrArg Node.stop (Option.some.inj isModule)) (by decide)
    · cases isParent
      contradiction

end CodeGloss.Gloss
