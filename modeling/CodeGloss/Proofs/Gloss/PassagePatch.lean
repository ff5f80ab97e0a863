import CodeGloss.Gloss.Passages
import CodeGloss.Glossary.Vocabulary
import CodeGloss.Proofs.Gloss.Recording
import CodeGloss.Proofs.Glossary.Dictionary
import CodeGloss.Proofs.Glossary.Substitution
import CodeGloss.Proofs.Syntax.Enclosed
import CodeGloss.Proofs.Syntax.Nesting
import CodeGloss.Proofs.Text.Places

/-!
# The patch of parsed source

Passages count bytes and are glossed in two turns, so replacements are offered out
of order, and a passage may start or end inside a character. Passages that share no
byte still share no character: of those that begin in one character, all but the
last are left without any, and nothing is replaced there.
-/

namespace CodeGloss.Gloss

open Glossary Syntax Text

/-! ## Offers of passages -/

/-- The replacement of a literal between quotes. -/
def quotedOffer? (entries : List Entry) (escape : List Char → List Char → List Char)
    (source : List Char) (start stop : Nat) : Option Offer :=
  let raw := slice source start stop
  let translated := translateEscaped entries (escape (raw.take 1)) (inside raw)
  if translated = inside raw then none
  else some ⟨.string, start, stop, raw.take 1 ++ translated ++ raw.take 1⟩

/-- The replacement of the comment between an opener and a closer. -/
def commentOffer? (entries : List Entry) (opener closer body : List Char) (start stop : Nat) :
    Option Offer :=
  if translate entries body = body then none
  else some ⟨.comment, start, stop, opener ++ translate entries body ++ closer⟩

def markedCommentOffer? (entries : List Entry) (source : List Char) (start stop : Nat) :
    Option Offer :=
  let raw := slice source start stop
  if lineMarker.isPrefixOf raw then commentOffer? entries lineMarker [] (raw.drop 2) start stop
  else if blockOpener.isPrefixOf raw ∧ blockCloser.isSuffixOf raw ∧ 4 ≤ raw.length then
    commentOffer? entries blockOpener blockCloser (slice raw 2 (raw.length - 2)) start stop
  else none

/-- The replacement of a range. -/
def rangeOffer? (entries : List Entry) (source : List Char) (kind : PassageKind)
    (start stop : Nat) : Option Offer :=
  match kind with
  | .string => quotedOffer? entries Escape.inQuotes source start stop
  | .attribute => quotedOffer? entries Escape.inAttribute source start stop
  | .templateChunk =>
      some ⟨.string, start, stop,
        translateEscaped entries Escape.inTemplate (slice source start stop)⟩
  | .markupText => some ⟨.string, start, stop, translate entries (slice source start stop)⟩
  | .comment => markedCommentOffer? entries source start stop

/-- The replacement of a passage that has its places in the source. -/
def passageOffer? (entries : List Entry) (source : List Char) (passage : Passage) :
    Option Offer :=
  match placeOf? source passage.start, placeOf? source passage.stop with
  | some start, some stop => rangeOffer? entries source passage.kind start stop
  | _, _ => none

/-- The segment of a passage that is replaced by something else. -/
def passageSegment? (entries : List Entry) (source : List Char) (passage : Passage) :
    Option Segment :=
  (passageOffer? entries source passage).bind (Offer.segment? source)

section Offers

variable {entries : List Entry} {source : List Char} {start stop : Nat} {offer : Offer}

theorem glossQuoted_eq_recordAll (entries : List Entry)
    (escape : List Char → List Char → List Char) (start stop : Nat) (draft : Draft) :
    glossQuoted entries escape start stop draft =
      draft.recordAll (quotedOffer? entries escape draft.source start stop).toList := by
  rw [quotedOffer?]
  split
  · rename_i same
    exact if_pos same
  · rename_i differs
    exact if_neg differs

theorem glossCommentBody_eq_recordAll (entries : List Entry) (opener closer body : List Char)
    (start stop : Nat) (draft : Draft) :
    glossCommentBody entries opener closer body start stop draft =
      draft.recordAll (commentOffer? entries opener closer body start stop).toList := by
  rw [commentOffer?]
  split
  · rename_i same
    exact if_pos same
  · rename_i differs
    exact if_neg differs

theorem glossMarkedComment_eq_recordAll (entries : List Entry) (start stop : Nat)
    (draft : Draft) :
    glossMarkedComment entries start stop draft =
      draft.recordAll (markedCommentOffer? entries draft.source start stop).toList := by
  simp only [glossMarkedComment, markedCommentOffer?, glossCommentBody_eq_recordAll]
  split
  · rfl
  · split
    · rfl
    · rfl

theorem glossRange_eq_recordAll (entries : List Entry) (kind : PassageKind) (start stop : Nat)
    (draft : Draft) :
    glossRange entries kind start stop draft =
      draft.recordAll (rangeOffer? entries draft.source kind start stop).toList := by
  cases kind
  · exact glossQuoted_eq_recordAll entries _ start stop draft
  · exact glossQuoted_eq_recordAll entries _ start stop draft
  · rfl
  · rfl
  · exact glossMarkedComment_eq_recordAll entries start stop draft

/-- An offer is made for the range, and never for plain text. -/
def Offer.IsFor (start stop : Nat) (offer : Offer) : Prop :=
  offer.start = start ∧ offer.stop = stop ∧ offer.kind ≠ .text

theorem isFor_of_mem_commentOffer? {opener closer body : List Char}
    (member : offer ∈ commentOffer? entries opener closer body start stop) :
    offer.IsFor start stop := by
  rw [commentOffer?, Option.mem_def, Option.ite_none_left_eq_some] at member
  rw [← Option.some.inj member.2]
  exact ⟨rfl, rfl, nofun⟩

theorem isFor_of_mem_quotedOffer? {escape : List Char → List Char → List Char}
    (member : offer ∈ quotedOffer? entries escape source start stop) :
    offer.IsFor start stop := by
  rw [quotedOffer?, Option.mem_def, Option.ite_none_left_eq_some] at member
  rw [← Option.some.inj member.2]
  exact ⟨rfl, rfl, nofun⟩

theorem kind_of_mem_quotedOffer? {escape : List Char → List Char → List Char}
    (member : offer ∈ quotedOffer? entries escape source start stop) : offer.kind = .string := by
  rw [quotedOffer?, Option.mem_def, Option.ite_none_left_eq_some] at member
  rw [← Option.some.inj member.2]

theorem isFor_of_mem_rangeOffer? {kind : PassageKind}
    (member : offer ∈ rangeOffer? entries source kind start stop) : offer.IsFor start stop := by
  cases kind
  · exact isFor_of_mem_quotedOffer? member
  · exact isFor_of_mem_quotedOffer? member
  · rw [← Option.some.inj member]
    exact ⟨rfl, rfl, nofun⟩
  · rw [← Option.some.inj member]
    exact ⟨rfl, rfl, nofun⟩
  · simp only [rangeOffer?, markedCommentOffer?] at member
    split at member
    · exact isFor_of_mem_commentOffer? member
    · split at member
      · exact isFor_of_mem_commentOffer? member
      · contradiction

theorem quotedOffer?_of_empty (keys : ∀ entry ∈ entries, entry.key ≠ [])
    (escape : List Char → List Char → List Char) (source : List Char) (start : Nat) :
    quotedOffer? entries escape source start start = none := by
  have empty := slice_eq_nil_of_le source (Nat.le_refl start)
  rw [quotedOffer?, empty]
  exact if_pos (translateEscaped_empty keys _)

theorem markedCommentOffer?_of_empty (entries : List Entry) (source : List Char) (start : Nat) :
    markedCommentOffer? entries source start start = none := by
  have empty := slice_eq_nil_of_le source (Nat.le_refl start)
  rw [markedCommentOffer?, empty]
  rfl

/-- Where there is no text nothing is replaced. -/
theorem segment?_rangeOffer?_of_empty (keys : ∀ entry ∈ entries, entry.key ≠ [])
    (kind : PassageKind) (source : List Char) (start : Nat) :
    (rangeOffer? entries source kind start start).bind (Offer.segment? source) = none := by
  have empty := slice_eq_nil_of_le source (Nat.le_refl start)
  cases kind
  · rw [rangeOffer?, quotedOffer?_of_empty keys]
    rfl
  · rw [rangeOffer?, quotedOffer?_of_empty keys]
    rfl
  · rw [rangeOffer?, empty, translateEscaped_empty keys]
    exact if_pos empty
  · rw [rangeOffer?, empty, Glossary.translate, translateEscaped_empty keys]
    exact if_pos empty
  · rw [rangeOffer?, markedCommentOffer?_of_empty]
    rfl

end Offers

/-! ## Passages of a source -/

/-- The passage has bytes of the source. -/
def LiesIn (source : List Char) (p : Passage) : Prop :=
  p.start < p.stop ∧ p.stop ≤ (Utf8.encode source).length

/-- Both ends of the passage have places in the source. -/
def IsPlaced (source : List Char) (p : Passage) : Prop :=
  ∃ start stop, placeOf? source p.start = some start ∧ placeOf? source p.stop = some stop

section Passages

variable {entries : List Entry} {source : List Char} {p q : Passage} {s t : Segment}

/-- The passages of a nested tree over a source lie in it. -/
theorem liesIn_of_mem_passagesOf {skipModules : Bool} {root : Node} (nested : root.Nested)
    (inData : root.stop ≤ (Utf8.encode source).length)
    (member : p ∈ passagesOf skipModules (Utf8.encode source) root) : LiesIn source p := by
  have within := within_of_mem_passagesOf nested member
  exact ⟨within.2.1, Nat.le_trans within.2.2 inData⟩

theorem LiesIn.exists_places (lies : LiesIn source p) :
    ∃ start stop, placeOf? source p.start = some start ∧ placeOf? source p.stop = some stop
      ∧ start ≤ stop ∧ stop ≤ source.length := by
  have startInText := Nat.le_trans (Nat.le_of_lt lies.1) lies.2
  rcases exists_placeOf? startInText with ⟨start, _, isStart⟩
  rcases exists_placeOf? lies.2 with ⟨stop, bound, isStop⟩
  have order := placeOf?_mono (Nat.le_of_lt lies.1) isStart isStop
  exact ⟨start, stop, isStart, isStop, order, bound⟩

theorem LiesIn.isPlaced (lies : LiesIn source p) : IsPlaced source p := by
  rcases lies.exists_places with ⟨start, stop, isStart, isStop, _, _⟩
  exact ⟨start, stop, isStart, isStop⟩

theorem exists_places_of_passageSegment? (isSegment : passageSegment? entries source p = some s) :
    ∃ start stop, placeOf? source p.start = some start ∧ placeOf? source p.stop = some stop
      ∧ (rangeOffer? entries source p.kind start stop).bind (Offer.segment? source) = some s
      ∧ s.start = start ∧ s.stop = stop := by
  rw [passageSegment?, passageOffer?] at isSegment
  split at isSegment
  · rename_i start stop isStart isStop
    refine ⟨start, stop, isStart, isStop, isSegment, ?_⟩
    rcases Option.bind_eq_some_iff.mp isSegment with ⟨offer, isOffer, made⟩
    rcases isFor_of_mem_rangeOffer? isOffer with ⟨rfl, rfl, _⟩
    rw [(Offer.segment?_eq_some_iff.mp made).1]
    exact ⟨rfl, rfl⟩
  · contradiction

theorem start_ne_stop_of_passageSegment? (keys : ∀ entry ∈ entries, entry.key ≠ [])
    (isSegment : passageSegment? entries source p = some s) : s.start ≠ s.stop := by
  rcases exists_places_of_passageSegment? isSegment with
    ⟨start, stop, _, _, isMade, starts, stops⟩
  intro empty
  rw [starts, stops, Nat.cast_inj] at empty
  rw [empty, segment?_rangeOffer?_of_empty keys] at isMade
  contradiction

/-- The segment of a passage has the places of its range, and some text between. -/
theorem places_of_passageSegment? (keys : ∀ entry ∈ entries, entry.key ≠ [])
    (lies : LiesIn source p) (isSegment : passageSegment? entries source p = some s) :
    ∃ start stop, placeOf? source p.start = some start ∧ placeOf? source p.stop = some stop
      ∧ s.start = start ∧ s.stop = stop ∧ start < stop ∧ stop ≤ source.length := by
  rcases lies.exists_places with ⟨start, stop, isStart, isStop, order, bound⟩
  rcases exists_places_of_passageSegment? isSegment with
    ⟨first, last, isFirst, isLast, _, starts, stops⟩
  have nonempty := start_ne_stop_of_passageSegment? keys isSegment
  rw [isStart, Option.some.injEq] at isFirst
  rw [isStop, Option.some.injEq] at isLast
  rw [starts, stops, ← isFirst, ← isLast, ne_eq, Nat.cast_inj] at nonempty
  rw [← isFirst] at starts
  rw [← isLast] at stops
  exact ⟨start, stop, isStart, isStop, starts, stops, Nat.lt_of_le_of_ne order nonempty, bound⟩

/-- Passages that share no byte make segments that share no character. -/
theorem apart_of_passageSegment? (apart : p.Apart q)
    (isFirst : passageSegment? entries source p = some s)
    (isSecond : passageSegment? entries source q = some t) : s.Apart t := by
  rcases exists_places_of_passageSegment? isFirst with
    ⟨pStart, pStop, isPStart, isPStop, _, sStart, sStop⟩
  rcases exists_places_of_passageSegment? isSecond with
    ⟨qStart, qStop, isQStart, isQStop, _, tStart, tStop⟩
  rw [Segment.Apart, sStart, sStop, tStart, tStop]
  rcases apart with before | behind
  · left
    exact Int.ofNat_le.mpr (placeOf?_mono before isPStop isQStart)
  · right
    exact Int.ofNat_le.mpr (placeOf?_mono behind isQStop isPStart)

theorem kind_of_mem_passageOffer? {offer : Offer}
    (member : offer ∈ passageOffer? entries source p) : offer.kind ≠ .text := by
  rw [passageOffer?] at member
  split at member
  · exact (isFor_of_mem_rangeOffer? member).2.2
  · contradiction

theorem glossPassage_eq_recordAll (placed : IsPlaced source p) (draft : Draft)
    (isSource : draft.source = source) :
    glossPassage entries draft p =
      .ok (draft.recordAll (passageOffer? entries source p).toList) := by
  rcases placed with ⟨start, stop, isStart, isStop⟩
  rw [glossPassage, passageOffer?, isSource, isStart, isStop]
  exact congrArg Except.ok (isSource ▸ glossRange_eq_recordAll entries p.kind start stop draft)

theorem foldlM_glossPassage {passages : List Passage}
    (placed : ∀ p ∈ passages, IsPlaced source p) (draft : Draft)
    (isSource : draft.source = source) :
    passages.foldlM (glossPassage entries) draft =
      .ok (draft.recordAll (passages.filterMap (passageOffer? entries source))) := by
  induction passages generalizing draft with
  | nil => rfl
  | cons p passages ih =>
      rcases List.forall_mem_cons.mp placed with ⟨first, rest⟩
      rw [List.foldlM_cons, glossPassage_eq_recordAll first draft isSource]
      refine (ih rest _ (by rw [Draft.source_recordAll, isSource])).trans ?_
      rw [← Draft.recordAll_append]
      cases isOffer : passageOffer? entries source p <;> simp [isOffer]

theorem eq_recordAll_of_glossPassage {draft next : Draft}
    (glossed : glossPassage entries draft p = .ok next) :
    next = draft.recordAll (passageOffer? entries draft.source p).toList := by
  cases isStart : placeOf? draft.source p.start with
  | none =>
      rw [glossPassage, isStart] at glossed
      contradiction
  | some start =>
      cases isStop : placeOf? draft.source p.stop with
      | none =>
          rw [glossPassage, isStart, isStop] at glossed
          contradiction
      | some stop =>
          rw [glossPassage, isStart, isStop] at glossed
          rw [passageOffer?, isStart, isStop, ← Except.ok.inj glossed]
          exact glossRange_eq_recordAll entries p.kind start stop draft

/-- Whatever the passages, a draft that comes out has their offers recorded. -/
theorem eq_recordAll_of_foldlM_glossPassage {passages : List Passage} {draft last : Draft}
    (glossed : passages.foldlM (glossPassage entries) draft = .ok last) :
    last = draft.recordAll (passages.filterMap (passageOffer? entries draft.source)) := by
  induction passages generalizing draft with
  | nil => exact (Except.ok.inj glossed).symm
  | cons p passages ih =>
      rw [List.foldlM_cons] at glossed
      cases isNext : glossPassage entries draft p with
      | error e =>
          rw [isNext] at glossed
          contradiction
      | ok next =>
          rw [isNext] at glossed
          have recorded := ih glossed
          rw [eq_recordAll_of_glossPassage isNext, Draft.source_recordAll,
            ← Draft.recordAll_append] at recorded
          rw [recorded]
          cases isOffer : passageOffer? entries draft.source p <;> simp [isOffer]

theorem commentsLast_perm (passages : List Passage) : (commentsLast passages).Perm passages := by
  have parts := List.filter_append_perm (fun passage : Passage => passage.kind != .comment) passages
  have isComment : (fun passage : Passage => !(passage.kind != .comment)) =
      fun passage => passage.kind == .comment := by
    funext passage
    rw [bne, Bool.not_not]
  rwa [isComment] at parts

/-- Passages whose segments have characters and share none can all be glossed. -/
theorem exists_glossPassages_of_apart {passages : List Passage}
    (placed : ∀ p ∈ passages, IsPlaced source p)
    (inside : ∀ s ∈ (commentsLast passages).filterMap (passageSegment? entries source),
      s.start < s.stop ∧ s.stop ≤ source.length)
    (apart : ((commentsLast passages).filterMap (passageSegment? entries source)).Pairwise
      Segment.Apart)
    (language : List Char) :
    ∃ result, glossPassages source passages entries language = .ok result
      ∧ result.segments =
        inSourceOrder ((commentsLast passages).filterMap (passageSegment? entries source))
      ∧ Weave 0 result.segments source result.code ∧ IsExactPatch source result := by
  have perm := commentsLast_perm passages
  have segments : ((commentsLast passages).filterMap (passageOffer? entries source)).filterMap
      (Offer.segment? source) =
        (commentsLast passages).filterMap (passageSegment? entries source) := by
    rw [List.filterMap_filterMap]
    rfl
  have kinds : ∀ offer ∈ (commentsLast passages).filterMap (passageOffer? entries source),
      offer.kind ≠ .text := by
    intro offer member
    rcases List.mem_filterMap.mp member with ⟨p, _, isOffer⟩
    exact kind_of_mem_passageOffer? isOffer
  rcases exists_finish_recordAll language kinds (by rwa [segments]) (by rwa [segments]) with
    ⟨result, finished, isSegments, weave, isPatch⟩
  have placedLast : ∀ p ∈ commentsLast passages, IsPlaced source p :=
    fun p member => placed p (perm.mem_iff.mp member)
  refine ⟨result, ?_, ?_, weave, isPatch⟩
  · rw [glossPassages, foldlM_glossPassage placedLast _ rfl]
    exact congrArg (Except.mapError PassageError.badEdit) finished
  · rw [isSegments, segments]

/-- Passages that have bytes and share none can all be glossed. -/
theorem exists_glossPassages {passages : List Passage} (keys : ∀ entry ∈ entries, entry.key ≠ [])
    (lie : ∀ p ∈ passages, LiesIn source p) (apart : passages.Pairwise Passage.Apart)
    (language : List Char) :
    ∃ result, glossPassages source passages entries language = .ok result
      ∧ result.segments =
        inSourceOrder ((commentsLast passages).filterMap (passageSegment? entries source))
      ∧ IsExactPatch source result := by
  have perm := commentsLast_perm passages
  have lieLast : ∀ p ∈ commentsLast passages, LiesIn source p :=
    fun p member => lie p (perm.mem_iff.mp member)
  have apartLast : (commentsLast passages).Pairwise Passage.Apart :=
    apart.perm perm.symm Or.symm
  have inside : ∀ s ∈ (commentsLast passages).filterMap (passageSegment? entries source),
      s.start < s.stop ∧ s.stop ≤ source.length := by
    intro s member
    rcases List.mem_filterMap.mp member with ⟨p, pMem, isSegment⟩
    rcases places_of_passageSegment? keys (lieLast p pMem) isSegment with
      ⟨start, stop, _, _, starts, stops, nonempty, bound⟩
    omega
  have segmentsApart : ((commentsLast passages).filterMap
      (passageSegment? entries source)).Pairwise Segment.Apart := by
    rw [List.pairwise_filterMap]
    exact apartLast.imp fun pqApart s isFirst t isSecond =>
      apart_of_passageSegment? pqApart isFirst isSecond
  rcases exists_glossPassages_of_apart (fun p member => (lie p member).isPlaced) inside
    segmentsApart language with ⟨result, glossed, isSegments, _, isPatch⟩
  exact ⟨result, glossed, isSegments, isPatch⟩

/-- Code that is glossed comes from a draft on which all passages were glossed. -/
theorem exists_draft_of_glossPassages {passages : List Passage} {language : List Char}
    {result : GlossedCode} (glossed : glossPassages source passages entries language = .ok result) :
    ∃ draft, (commentsLast passages).foldlM (glossPassage entries) (.empty source language) =
        .ok draft
      ∧ draft.finish = .ok result := by
  rw [glossPassages] at glossed
  cases isDraft : (commentsLast passages).foldlM (glossPassage entries)
      (.empty source language) with
  | error e =>
      rw [isDraft] at glossed
      contradiction
  | ok draft =>
      rw [isDraft] at glossed
      change draft.finish.mapError PassageError.badEdit = .ok result at glossed
      cases finished : draft.finish with
      | error bad =>
          rw [finished] at glossed
          contradiction
      | ok code =>
          rw [finished] at glossed
          exact ⟨draft, rfl, finished.trans (congrArg Except.ok (Except.ok.inj glossed))⟩

/-- Code that is glossed is the finished draft with the offers of the passages. -/
theorem finish_of_glossPassages {passages : List Passage} {language : List Char}
    {result : GlossedCode} (glossed : glossPassages source passages entries language = .ok result) :
    ((Draft.empty source language).recordAll
      ((commentsLast passages).filterMap (passageOffer? entries source))).finish = .ok result := by
  rcases exists_draft_of_glossPassages glossed with ⟨draft, isDraft, finished⟩
  rw [← finished, eq_recordAll_of_foldlM_glossPassage isDraft]
  rfl

/-- Every segment of glossed passages is the segment of one of them. -/
theorem exists_passage_of_mem_segments {passages : List Passage} {language : List Char}
    {result : GlossedCode} (glossed : glossPassages source passages entries language = .ok result)
    (member : s ∈ result.segments) : ∃ p ∈ passages, passageSegment? entries source p = some s := by
  rw [Draft.segments_of_finish (finish_of_glossPassages glossed), mem_inSourceOrder,
    Draft.segments_recordAll] at member
  simp only [Draft.empty, List.nil_append, List.mem_filterMap] at member
  rcases member with ⟨offer, ⟨p, pMem, isOffer⟩, made⟩
  refine ⟨p, (commentsLast_perm passages).mem_iff.mp pMem, ?_⟩
  rw [passageSegment?, isOffer]
  exact made

end Passages

/-! ## Syntax trees -/

/-- A syntax tree whose ranges are nested and lie in the source makes passages that
share no byte. Glossing them succeeds, each literal has the quotes that its escape is
for, and the result is an exact patch of the source. -/
theorem glossPassages_isExactPatch {parser : Parser} {grammar source : List Char} {root : Node}
    (replies : parser grammar source = .tree root) (noError : root.kind ≠ .error)
    (nested : root.Nested) (inData : root.stop ≤ (Utf8.encode source).length)
    (skipModules : Bool) (terms : List Term) (vocabulary : Vocabulary) (language : List Char) :
    ∃ parsed result, parse parser grammar skipModules source = .ok parsed
      ∧ parsed.passages = passagesOf skipModules (Utf8.encode source) root
      ∧ parsed.passages.Pairwise Passage.Apart
      ∧ (∀ p ∈ parsed.passages, p.kind = .string ∨ p.kind = .attribute →
        ∃ first last quote content, placeOf? source p.start = some first
          ∧ placeOf? source p.stop = some last ∧ (quote = '\'' ∨ quote = '"')
          ∧ slice source first last = quote :: (content ++ [quote]))
      ∧ glossPassages source parsed.passages (dictionaryOf terms vocabulary) language = .ok result
      ∧ IsExactPatch source result := by
  have keys : ∀ entry ∈ dictionaryOf terms vocabulary, entry.key ≠ [] :=
    fun entry member => (ne_nil_of_mem_dictionaryOf member).1
  have apart := pairwise_passagesOf skipModules (Utf8.encode source) nested
  have lie : ∀ p ∈ passagesOf skipModules (Utf8.encode source) root, LiesIn source p := by
    intro p member
    have within := within_of_mem_passagesOf nested member
    exact ⟨within.2.1, Nat.le_trans within.2.2 inData⟩
  rcases exists_glossPassages keys lie apart language with ⟨result, finished, _, isPatch⟩
  refine ⟨.ofTree skipModules (Utf8.encode source) root, result, ?_, rfl, apart, ?_, finished,
    isPatch⟩
  · rw [parse, replies]
    exact if_neg noError
  · intro p member quoted
    exact exists_quoted_of_isEnclosed (lie p member).2 (isEnclosed_of_mem_passagesOf member quoted)

/-- The literal within the template comes behind the chunk that follows it, and the
comment comes last. -/
theorem glossPassages_isExactPatch_template :
    let source := "`a$\x7b'user'\x7dé user`// user".toList
    let string := Node.leaf .string 4 10
    let substitution : Node := ⟨.substitution, 2, 11, false, none, none, [string]⟩
    let template : Node := ⟨.template, 0, 19, false, none, none, [substitution]⟩
    let root : Node := ⟨.other, 0, 26, false, none, none, [template, .leaf .comment 19 26]⟩
    let parser : Parser := fun _ _ => .tree root
    root.kind ≠ .error ∧ root.Nested ∧ root.stop ≤ (Utf8.encode source).length
    ∧ ∃ parsed result, parse parser "tsx".toList true source = .ok parsed
      ∧ parsed.passages = passagesOf true (Utf8.encode source) root
      ∧ parsed.passages.Pairwise Passage.Apart
      ∧ (∀ p ∈ parsed.passages, p.kind = .string ∨ p.kind = .attribute →
        ∃ first last quote content, placeOf? source p.start = some first
          ∧ placeOf? source p.stop = some last ∧ (quote = '\'' ∨ quote = '"')
          ∧ slice source first last = quote :: (content ++ [quote]))
      ∧ glossPassages source parsed.passages (dictionaryOf [] builtInVocabulary) "js".toList =
        .ok result
      ∧ IsExactPatch source result := by
  intro source string substitution template root parser
  have stringNested : string.Nested := Node.nested_leaf .string (by decide)
  have substitutionNested : substitution.Nested :=
    .intro (by decide) (by simp [substitution, string, Node.leaf]) (List.pairwise_singleton _ _)
      (List.forall_mem_singleton.mpr stringNested)
  have templateNested : template.Nested :=
    .intro (by decide) (by simp [template, substitution]) (List.pairwise_singleton _ _)
      (List.forall_mem_singleton.mpr substitutionNested)
  have rootNested : root.Nested :=
    .intro (by decide) (by simp [root, template, Node.leaf]) (by simp [root, template, Node.leaf])
      (List.forall_mem_cons.mpr
        ⟨templateNested, List.forall_mem_singleton.mpr (Node.nested_leaf .comment (by decide))⟩)
  have noError : root.kind ≠ .error := by decide
  have inData : root.stop ≤ (Utf8.encode source).length := by decide
  exact ⟨noError, rootNested, inData,
    glossPassages_isExactPatch rfl noError rootNested inData true [] builtInVocabulary
      "js".toList⟩

end CodeGloss.Gloss
