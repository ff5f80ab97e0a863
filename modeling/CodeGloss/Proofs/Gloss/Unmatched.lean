import CodeGloss.Proofs.Gloss.Unchanged
import CodeGloss.Proofs.Glossary.Occurrence
import CodeGloss.Proofs.Scan.Change
import CodeGloss.Proofs.Syntax.Edges

/-!
# Sources without a match

Matches are searched in the contents of a source, where the first and the last word
stand at the edge of the text. The delimiters outside are no word characters, so
no word edge is there that the source does not have: if no key matches anywhere in
the source, none matches in a content, and the source is returned as it came.

The scanner finds delimiters itself, and so do the rules for quoted strings,
templates and block comments. Of a syntax tree it has to be assumed that
substitutions, text between tags and line comments end where no word goes on.
-/

namespace CodeGloss.Gloss

open Glossary Scan Syntax Text

section Contents

variable {entries : List Entry} {source : List Char}

/-! ## Scanned sources -/

/-- No content of a scan is changed. -/
theorem translateEscaped_content (keys : ∀ entry ∈ entries, entry.key ≠ [])
    (noMatch : anyOccurs entries source = false) (escape : List Char → List Char) {span : Span}
    (member : span ∈ scan {} source) {content : List Char}
    (isContent : content ∈ span.content? ['#'] source) :
    translateEscaped entries escape content = content := by
  rcases exists_cut_source separate_default source with ⟨pieces, tail, cut⟩
  rcases cut.exists_parts_of_mem_scan member with
    ⟨front, ⟨gap, token⟩, behind, parts, isSource, rfl⟩
  have fits := cut.fits ⟨gap, token⟩ (by simp [parts])
  rw [isSource, Token.content?_span _ _ _ rfl] at isContent
  cases token with
  | comment body =>
      rcases fits.1 with ⟨inner, rfl⟩
      cases isContent
      have cutOut : source = (textOf front ++ gap ++ ['#']) ++ (inner ++ (textOf behind ++ tail)) := by
        rw [isSource]
        simp [Token.text]
      have freeBefore : isWordAt (textOf front ++ gap ++ ['#']).getLast? = false := by
        rw [List.getLast?_concat]
        decide +kernel
      have freeAfter : isWordAt (textOf behind ++ tail).head? = false := by
        have lineEnd := cut.lineEnd parts
        cases isHead : (textOf behind ++ tail).head? with
        | none => rfl
        | some c =>
            rw [lineEnd c isHead]
            decide +kernel
      exact translateEscaped_of_append keys escape noMatch cutOut freeBefore freeAfter
  | string lead quote triple inner =>
      cases isContent
      have edge : isWordAt (some quote) = false := isWord_of_mem_quoteChars fits
      have cutOut : source = ((textOf front ++ gap ++ lead) ++ delimiterOf quote triple)
          ++ (content ++ (delimiterOf quote triple ++ (textOf behind ++ tail))) := by
        rw [isSource]
        simp [Token.text]
      have freeBefore :
          isWordAt ((textOf front ++ gap ++ lead) ++ delimiterOf quote triple).getLast? = false := by
        rw [getLast?_append_delimiterOf]
        exact edge
      have freeAfter :
          isWordAt (delimiterOf quote triple ++ (textOf behind ++ tail)).head? = false := by
        rw [head?_delimiterOf_append]
        exact edge
      exact translateEscaped_of_append keys escape noMatch cutOut freeBefore freeAfter
  | unclosed lead quote triple body => contradiction

/-! ## Pieces of passages -/

/-- What stands between an opener and a closer is not changed, if no word begins with the
opener's end and none ends with the closer's start. -/
theorem translateEscaped_inner (keys : ∀ entry ∈ entries, entry.key ≠ [])
    (noMatch : anyOccurs entries source = false) (escape : List Char → List Char)
    {first last : Nat} {opener body closer : List Char} (order : first ≤ last)
    (parts : slice source first last = opener ++ (body ++ closer))
    (freeBefore : isWordAt (source.take first ++ opener).getLast? = false)
    (freeAfter : isWordAt (closer ++ source.drop last).head? = false) :
    translateEscaped entries escape body = body := by
  have cutOut : source =
      (source.take first ++ opener) ++ (body ++ (closer ++ source.drop last)) := by
    have whole := drop_eq_slice_append source order
    rw [parts] at whole
    conv_lhs => rw [← List.take_append_drop first source, whole]
    simp only [List.append_assoc]
  exact translateEscaped_of_append keys escape noMatch cutOut freeBefore freeAfter

end Contents

/-- No word goes on before the place of a byte. -/
def FreeBefore (source : List Char) (offset : Nat) : Prop :=
  ∀ place ∈ placeOf? source offset, isWordAt (source.take place).getLast? = false

/-- No word goes on behind the place of a byte. -/
def FreeAfter (source : List Char) (offset : Nat) : Prop :=
  ∀ place ∈ placeOf? source offset, isWordAt (source.drop place).head? = false

section Bytes

variable {source : List Char} {offset : Nat} {b : UInt8}

theorem getElem?_of_slice_eq_singleton {α : Type} {items : List α} {start stop : Nat} {item : α}
    (single : slice items start stop = [item]) : start < stop ∧ items[start]? = some item := by
  have order : start < stop := by
    apply Nat.lt_of_not_le
    intro empty
    rw [slice_eq_nil_of_le items empty] at single
    contradiction
  have isFirst : (slice items start stop)[0]? = items[start]? := getElem?_slice items order
  rw [single] at isFirst
  exact ⟨order, isFirst.symm⟩

/-- A byte that is a character and no word character. -/
def IsFree (b : UInt8) : Prop :=
  b.toNat < 0x80 ∧ isWord (Char.ofNat b.toNat) = false

theorem freeAfter_of_slice {stop : Nat} (free : IsFree b)
    (isByte : slice (Utf8.encode source) offset stop = [b]) : FreeAfter source offset := by
  rcases exists_place_of_ascii (getElem?_of_slice_eq_singleton isByte).2 free.1 with
    ⟨found, isPlace, _, isChar⟩
  intro place isOther
  cases isPlace.symm.trans isOther
  rw [List.head?_drop, isChar]
  exact free.2

theorem freeBefore_of_slice (free : IsFree b)
    (isByte : slice (Utf8.encode source) (offset - 1) offset = [b]) : FreeBefore source offset := by
  rcases getElem?_of_slice_eq_singleton isByte with ⟨order, isFirst⟩
  rcases exists_place_of_ascii isFirst free.1 with ⟨found, _, isPlace, isChar⟩
  rw [Nat.sub_add_cancel (Nat.one_le_of_lt order)] at isPlace
  intro place isOther
  cases isPlace.symm.trans isOther
  rw [List.getLast?_take, if_neg (Nat.succ_ne_zero found), Nat.add_sub_cancel, isChar]
  exact free.2

end Bytes

/-! ## Passages -/

/-- The bytes that open and close a substitution. -/
def substitutionBytes : UInt8 × UInt8 :=
  (0x24, 0x7D)

/-- Substitutions have their marks, and no word goes on at the edges of text between tags or
behind a line comment, as where the line or the source ends. -/
structure Delimited (source : List Char) (node : Node) : Prop where
  substitution : node.kind = .substitution →
    slice (Utf8.encode source) node.start (node.start + 1) = [substitutionBytes.1]
      ∧ slice (Utf8.encode source) (node.stop - 1) node.stop = [substitutionBytes.2]
  markupText : node.kind = .markupText → FreeBefore source node.start ∧ FreeAfter source node.stop
  lineComment : node.kind = .comment → ∀ first ∈ placeOf? source node.start,
    ∀ last ∈ placeOf? source node.stop, lineMarker <+: slice source first last →
      isWordAt (source.drop last).head? = false

/-- Nothing is asked of the other nodes. -/
theorem delimited_of_kind {source : List Char} {node : Node} (substitution : node.kind ≠ .substitution)
    (markupText : node.kind ≠ .markupText) (comment : node.kind ≠ .comment) :
    Delimited source node :=
  ⟨fun kind => absurd kind substitution, fun kind => absurd kind markupText,
    fun kind => absurd kind comment⟩

section Ranges

variable {entries : List Entry} {source : List Char} {first last : Nat}

theorem quotedOffer?_of_noMatch (keys : ∀ entry ∈ entries, entry.key ≠ [])
    (noMatch : anyOccurs entries source = false) (escape : List Char → List Char → List Char)
    (order : first ≤ last) {quote : Char} {content : List Char} (isQuote : quote = '\'' ∨ quote = '"')
    (parts : slice source first last = [quote] ++ (content ++ [quote])) :
    quotedOffer? entries escape source first last = none := by
  have noWord : isWord quote = false := by
    rcases isQuote with rfl | rfl <;> decide +kernel
  have isInside : inside (slice source first last) = content := by
    rw [parts, List.singleton_append, inside, List.tail_cons, List.dropLast_concat]
  have kept : translateEscaped entries (escape ((slice source first last).take 1)) content =
      content := by
    apply translateEscaped_inner keys noMatch _ order parts
    · rw [List.getLast?_concat]
      exact noWord
    · exact noWord
  rw [quotedOffer?, isInside]
  exact if_pos kept

/-- Text is not changed where no word goes on at its edges. -/
theorem translateEscaped_slice (keys : ∀ entry ∈ entries, entry.key ≠ [])
    (noMatch : anyOccurs entries source = false) (escape : List Char → List Char)
    (order : first ≤ last) (freeBefore : isWordAt (source.take first).getLast? = false)
    (freeAfter : isWordAt (source.drop last).head? = false) :
    translateEscaped entries escape (slice source first last) = slice source first last := by
  have parts : slice source first last = [] ++ (slice source first last ++ []) := by
    rw [List.nil_append, List.append_nil]
  apply translateEscaped_inner keys noMatch escape order parts
  · rwa [List.append_nil]
  · exact freeAfter

/-- A block comment is its body between the opener and the closer. -/
theorem eq_blockComment {raw : List Char} (opens : blockOpener <+: raw) (closes : blockCloser <:+ raw)
    (long : 4 ≤ raw.length) :
    raw = blockOpener ++ (slice raw 2 (raw.length - 2) ++ blockCloser) := by
  have isOpener : raw.take 2 = blockOpener := (List.prefix_iff_eq_take.mp opens).symm
  have isCloser : raw.drop (raw.length - 2) = blockCloser := (List.suffix_iff_eq_drop.mp closes).symm
  calc
    raw = raw.take 2 ++ raw.drop 2 := (List.take_append_drop 2 raw).symm
    _ = blockOpener ++ (slice raw 2 (raw.length - 2) ++ blockCloser) := by
      have order : 2 ≤ raw.length - 2 := Nat.le_sub_of_add_le long
      rw [drop_eq_slice_append raw order, isOpener, isCloser]

theorem isWordAt_slash : isWordAt (some '/') = false := by
  decide +kernel

theorem isWordAt_star : isWordAt (some '*') = false := by
  decide +kernel

theorem markedCommentOffer?_of_noMatch (keys : ∀ entry ∈ entries, entry.key ≠ [])
    (noMatch : anyOccurs entries source = false) (order : first ≤ last)
    (lineComment : lineMarker <+: slice source first last →
      isWordAt (source.drop last).head? = false) :
    markedCommentOffer? entries source first last = none := by
  simp only [markedCommentOffer?]
  split
  · rename_i isLine
    rw [List.isPrefixOf_iff_prefix] at isLine
    rcases isLine with ⟨body, parts⟩
    have isBody : (slice source first last).drop 2 = body := by
      rw [← parts]
      rfl
    have kept : translate entries body = body := by
      have unclosed : slice source first last = lineMarker ++ (body ++ []) := by
        rw [List.append_nil, parts]
      apply translateEscaped_inner keys noMatch id order unclosed
      · rw [List.getLast?_append]
        exact isWordAt_slash
      · exact lineComment ⟨body, parts⟩
    rw [isBody, commentOffer?, if_pos kept]
  · split
    · rename_i isBlock
      rw [List.isPrefixOf_iff_prefix, List.isSuffixOf_iff_suffix] at isBlock
      have parts := eq_blockComment isBlock.1 isBlock.2.1 isBlock.2.2
      generalize slice (slice source first last) 2 ((slice source first last).length - 2) = body
        at parts
      have kept : translate entries body = body := by
        apply translateEscaped_inner keys noMatch id order parts
        · rw [List.getLast?_append]
          exact isWordAt_star
        · exact isWordAt_star
      rw [commentOffer?, if_pos kept]
    · rfl

end Ranges

section Passages

variable {entries : List Entry} {source : List Char} {p : Passage}

theorem free_of_mem_chunksFrom {node : Node}
    (delimited : ∀ other ∈ walk [node], Delimited source other)
    (opens : slice (Utf8.encode source) node.start (node.start + 1) = [templateByte])
    (closes : slice (Utf8.encode source) (node.stop - 1) node.stop = [templateByte])
    (isChunk : p ∈ chunksFrom (node.start + 1) (node.stop - 1) node.children) :
    FreeBefore source p.start ∧ FreeAfter source p.stop := by
  have template : IsFree templateByte := ⟨by decide, by decide +kernel⟩
  have dollar : IsFree substitutionBytes.1 := ⟨by decide, by decide +kernel⟩
  have brace : IsFree substitutionBytes.2 := ⟨by decide, by decide +kernel⟩
  refine edges_of_mem_chunksFrom (freeBefore_of_slice template ?_)
    (freeAfter_of_slice template closes) ?_ isChunk
  · rwa [Nat.add_sub_cancel]
  · intro child isChild isSubstitution
    have inTree := mem_walk_of_mem_children isChild (mem_walk_self child)
    rcases (delimited child inTree).substitution isSubstitution with ⟨opensChild, closesChild⟩
    exact ⟨freeAfter_of_slice dollar opensChild, freeBefore_of_slice brace closesChild⟩

theorem passageSegment?_of_noMatch {node : Node} (keys : ∀ entry ∈ entries, entry.key ≠ [])
    (noMatch : anyOccurs entries source = false) (lies : LiesIn source p)
    (enclosed : p.kind = .string ∨ p.kind = .attribute →
      isEnclosed (slice (Utf8.encode source) p.start p.stop) = true)
    (delimited : ∀ other ∈ walk [node], Delimited source other)
    (origin : Origin (Utf8.encode source) node p) : passageSegment? entries source p = none := by
  rcases lies.exists_places with ⟨first, last, isFirst, isLast, order, _⟩
  rw [passageSegment?, passageOffer?, isFirst, isLast]
  change (rangeOffer? entries source p.kind first last).bind (Offer.segment? source) = none
  cases origin with
  | quoted kind =>
      have isQuoted := exists_quoted_of_isEnclosed lies.2 (enclosed kind)
      rw [isFirst, isLast] at isQuoted
      rcases isQuoted with ⟨first, last, quote, content, sameFirst, sameLast, isQuote, parts⟩
      cases sameFirst
      cases sameLast
      have noOffer := fun escape =>
        quotedOffer?_of_noMatch keys noMatch escape order isQuote parts
      rcases kind with isString | isAttribute
      · rw [isString]
        exact congrArg (Option.bind · (Offer.segment? source)) (noOffer Escape.inQuotes)
      · rw [isAttribute]
        exact congrArg (Option.bind · (Offer.segment? source)) (noOffer Escape.inAttribute)
  | chunk opens closes isChunk =>
      rcases free_of_mem_chunksFrom delimited opens closes isChunk with ⟨freeBefore, freeAfter⟩
      have kept := translateEscaped_slice keys noMatch Escape.inTemplate order
        (freeBefore first isFirst) (freeAfter last isLast)
      rw [kind_of_mem_chunksFrom isChunk]
      exact if_pos kept.symm
  | markupText kind =>
      rcases (delimited node (mem_walk_self node)).markupText kind with ⟨freeBefore, freeAfter⟩
      have kept := translateEscaped_slice keys noMatch id order (freeBefore first isFirst)
        (freeAfter last isLast)
      exact if_pos kept.symm
  | comment kind =>
      have lineComment := (delimited node (mem_walk_self node)).lineComment kind first isFirst last
        isLast
      have noOffer := markedCommentOffer?_of_noMatch keys noMatch order lineComment
      exact congrArg (Option.bind · (Offer.segment? source)) noOffer

end Passages

/-- A source in which no entry of the dictionary has a match is returned as it came: when it is
scanned, when it is taken as plain text, and when it is parsed into a nested tree whose nodes are
delimited as they are in a source. -/
theorem gloss_of_noMatch {terms : List Term} {vocabulary : Vocabulary} {source : List Char}
    (noMatch : anyOccurs (dictionaryOf terms vocabulary) source = false) (language : List Char) :
    glossScanned {} source (dictionaryOf terms vocabulary) language =
      .ok (.unchanged language source)
    ∧ glossWhole source (dictionaryOf terms vocabulary) language = ⟨language, source, true, [], 0, 0⟩
    ∧ ∀ (parser : Parser) (grammar : List Char) (root : Node) (skipModules : Bool),
      parser grammar source = .tree root → root.kind ≠ .error → root.Nested →
      root.stop ≤ (Utf8.encode source).length → (∀ node ∈ walk [root], Delimited source node) →
        ∃ parsed, parse parser grammar skipModules source = .ok parsed
          ∧ glossPassages source parsed.passages (dictionaryOf terms vocabulary) language =
            .ok (.unchanged language source) := by
  have keys : ∀ entry ∈ dictionaryOf terms vocabulary, entry.key ≠ [] :=
    fun entry member => (ne_nil_of_mem_dictionaryOf member).1
  refine ⟨?_, ?_, ?_⟩
  · apply glossScanned_of_unchanged
    intro span member content isContent
    exact translateEscaped_content keys noMatch _ member isContent
  · exact glossWhole_of_unchanged language (translateEscaped_of_not_anyOccurs id noMatch)
  · intro parser grammar root skipModules replies noError nested inData delimited
    have lie : ∀ p ∈ passagesOf skipModules (Utf8.encode source) root, LiesIn source p := by
      intro p member
      have within := within_of_mem_passagesOf nested member
      exact ⟨within.2.1, Nat.le_trans within.2.2 inData⟩
    refine ⟨.ofTree skipModules (Utf8.encode source) root, ?_, ?_⟩
    · rw [parse, replies]
      exact if_neg noError
    · apply glossPassages_of_unchanged language lie
      intro p member
      rcases exists_visit_of_mem_passagesOf delimited member with ⟨visit, inTree, own⟩
      exact passageSegment?_of_noMatch keys noMatch (lie p member)
        (isEnclosed_of_mem_passagesOf member) inTree (origin_of_mem_ownPassages own)

/-- The key is part of four words, each at an edge of its passage. -/
theorem gloss_of_noMatch_parts :
    let vocabulary : Vocabulary := [("user".toList, .text "usuario".toList)]
    let entries := dictionaryOf [] vocabulary
    let source := "`user1$\x7b'users'\x7d_user`// superuser\n".toList
    let string := Node.leaf .string 8 15
    let substitution : Node := ⟨.substitution, 6, 16, false, none, none, [string]⟩
    let template : Node := ⟨.template, 0, 22, false, none, none, [substitution]⟩
    let root : Node := ⟨.other, 0, 35, false, none, none, [template, .leaf .comment 22 34]⟩
    let parser : Parser := fun _ _ => .tree root
    anyOccurs entries source = false
    ∧ root.kind ≠ .error ∧ root.Nested ∧ root.stop ≤ (Utf8.encode source).length
    ∧ (∀ node ∈ walk [root], Delimited source node)
    ∧ glossScanned {} source entries "js".toList = .ok (.unchanged "js".toList source)
    ∧ glossWhole source entries "js".toList = ⟨"js".toList, source, true, [], 0, 0⟩
    ∧ ∃ parsed, parse parser "tsx".toList true source = .ok parsed
      ∧ glossPassages source parsed.passages entries "js".toList =
        .ok (.unchanged "js".toList source) := by
  intro vocabulary entries source string substitution template root parser
  have noMatch : anyOccurs entries source = false := by
    have proposed : ((candidates [] vocabulary).filterMap Candidate.entry?).all (fun entry =>
        !entry.matcher.occursIn source) = true := by
      decide +kernel
    rw [anyOccurs, List.any_eq_false]
    intro entry member
    simpa using List.all_eq_true.mp proposed entry (mem_proposed_of_mem_dictionaryOf member)
  have noError : root.kind ≠ .error := by decide
  have inData : root.stop ≤ (Utf8.encode source).length := by decide
  have stringNested : string.Nested := Node.nested_leaf .string (by decide)
  have substitutionNested : substitution.Nested :=
    .intro (by decide) (by simp [substitution, string, Node.leaf]) (List.pairwise_singleton _ _)
      (List.forall_mem_singleton.mpr stringNested)
  have templateNested : template.Nested :=
    .intro (by decide) (by simp [template, substitution]) (List.pairwise_singleton _ _)
      (List.forall_mem_singleton.mpr substitutionNested)
  have nested : root.Nested :=
    .intro (by decide) (by simp [root, template, Node.leaf]) (by simp [root, template, Node.leaf])
      (List.forall_mem_cons.mpr
        ⟨templateNested, List.forall_mem_singleton.mpr (Node.nested_leaf .comment (by decide))⟩)
  have nodes : walk [root] = [root, template, substitution, string, .leaf .comment 22 34] := by
    simp [walk_cons, root, template, substitution, string, Node.leaf]
  have delimited : ∀ node ∈ walk [root], Delimited source node := by
    rw [nodes]
    have isRoot : Delimited source root := delimited_of_kind (by decide) (by decide) (by decide)
    have isTemplate : Delimited source template :=
      delimited_of_kind (by decide) (by decide) (by decide)
    have isString : Delimited source string := delimited_of_kind (by decide) (by decide) (by decide)
    have isSubstitution : Delimited source substitution := by
      refine ⟨fun _ => by decide, ?_, ?_⟩
      · intro kind
        contradiction
      · intro kind
        contradiction
    have isComment : Delimited source (.leaf .comment 22 34) := by
      refine ⟨?_, ?_, ?_⟩
      · intro kind
        contradiction
      · intro kind
        contradiction
      · intro _ first isFirst last isLast _
        have place : placeOf? source 34 = some 34 := by decide
        cases place.symm.trans isLast
        decide +kernel
    simp only [List.forall_mem_cons]
    exact ⟨isRoot, isTemplate, isSubstitution, isString, isComment, List.forall_mem_nil _⟩
  rcases gloss_of_noMatch noMatch "js".toList with ⟨scanned, whole, parsed⟩
  exact ⟨noMatch, noError, nested, inData, delimited, scanned, whole,
    parsed parser "tsx".toList root true rfl noError nested inData delimited⟩

end CodeGloss.Gloss
