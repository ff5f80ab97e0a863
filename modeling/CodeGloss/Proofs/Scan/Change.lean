import CodeGloss.Proofs.Scan.Spans

/-!
# Changing contents

If the content of every comment and every terminated literal of a text is changed,
and the change is one that no delimiter notices, then a scan of the changed text
goes through the same rules as before. It finds the same tokens with the changed
contents and the same gaps between them.
-/

namespace CodeGloss.Scan

open Text

/-- A change that leaves comments on their line and literals between their
delimiters. -/
structure KeepsContents (profile : Profile) (turn : List Char → List Char) : Prop where
  nil_iff : ∀ text, turn text = [] ↔ text = []
  oneLine : ∀ text, '\n' ∉ text → '\n' ∉ turn text
  content : ∀ quote ∈ profile.quoteChars, ∀ triple raw text,
    Content (delimiterOf quote triple) raw text →
      Content (delimiterOf quote triple) raw (turn text)

theorem keepsContents_id (profile : Profile) : KeepsContents profile id :=
  ⟨fun _ => Iff.rfl, fun _ oneLine => oneLine, fun _ _ _ _ _ isContent => isContent⟩

theorem KeepsContents.comp {profile : Profile} {first second : List Char → List Char}
    (secondKeeps : KeepsContents profile second) (firstKeeps : KeepsContents profile first) :
    KeepsContents profile fun text => second (first text) where
  nil_iff text := (secondKeeps.nil_iff _).trans (firstKeeps.nil_iff text)
  oneLine text oneLine := secondKeeps.oneLine _ (firstKeeps.oneLine text oneLine)
  content quote isQuote triple raw text isContent :=
    secondKeeps.content quote isQuote triple raw _
      (firstKeeps.content quote isQuote triple raw text isContent)

/-- The token with its content changed. An unclosed literal has no content. -/
def Token.change (marker : List Char) (turn : List Char → List Char) : Token → Token
  | comment body => comment (marker ++ turn (body.drop marker.length))
  | string lead quote triple content => string lead quote triple (turn content)
  | unclosed lead quote triple body => unclosed lead quote triple body

def Piece.change (marker : List Char) (turn : List Char → List Char) (piece : Piece) : Piece :=
  ⟨piece.gap, piece.token.change marker turn⟩

/-- A comment starts with one character, and no backslash is a quote. -/
structure Profile.Plain (profile : Profile) : Prop extends profile.Separate where
  marker_single : profile.commentMarker.length = 1
  quote_noBackslash : '\\' ∉ profile.quoteChars

theorem plain_default : ({} : Profile).Plain := by
  constructor
  · exact separate_default
  · rfl
  · decide

section Change

variable {profile : Profile} {turn : List Char → List Char}

theorem head?_of_starts {marker text : List Char} (nonempty : marker ≠ [])
    (starts : marker <+: text) : text.head? = marker.head? := by
  rcases starts with ⟨behind, rfl⟩
  cases marker with
  | nil => contradiction
  | cons c marker => rfl

/-- Whether a comment starts is seen from the next character. -/
theorem marker_prefix_iff (plain : profile.Plain) {text : List Char} :
    profile.commentMarker <+: text ↔ text.head? = profile.commentMarker.head? := by
  constructor
  · exact head?_of_starts plain.marker_ne_nil
  · rcases List.length_eq_one_iff.mp plain.marker_single with ⟨mark, isMarker⟩
    rw [isMarker]
    intro sameHead
    rcases List.head?_eq_some_iff.mp sameHead with ⟨rest, rfl⟩
    exact ⟨rest, rfl⟩

theorem head?_delimiterOf_append (quote : Char) (triple : Bool) (rest : List Char) :
    (delimiterOf quote triple ++ rest).head? = some quote := by
  rcases delimiterOf_eq_cons quote triple with ⟨more, isDelimiter⟩
  rw [isDelimiter]
  rfl

theorem Content.head_ne {quote c : Char} {raw : Bool} {content : List Char}
    (noBackslash : quote ≠ '\\') (isContent : Content (delimiterOf quote false) raw (c :: content)) :
    c ≠ quote := by
  rintro rfl
  cases isContent with
  | escaped => exact noBackslash rfl
  | plain _ stillOpen _ => exact stillOpen ⟨_, rfl⟩

/-- Whether a literal opens with three quotes is the same after a change. -/
theorem opens_change {quote : Char} {triple raw : Bool} {content content' rest rest' : List Char}
    (noBackslash : quote ≠ '\\') (isContent : Content (delimiterOf quote triple) raw content')
    (nil_iff : content' = [] ↔ content = []) (sameHead : rest'.head? = rest.head?)
    (opens : [quote, quote].isPrefixOf
      (delimiterOf quote triple ++ (content ++ (delimiterOf quote triple ++ rest))).tail = triple) :
    [quote, quote].isPrefixOf
      (delimiterOf quote triple ++ (content' ++ (delimiterOf quote triple ++ rest'))).tail =
        triple := by
  cases triple with
  | true => simp [delimiterOf]
  | false =>
      cases content' with
      | nil =>
          rw [nil_iff.mp rfl] at opens
          cases rest' with
          | nil => simp [delimiterOf]
          | cons c rest' =>
              rcases List.head?_eq_some_iff.mp sameHead.symm with ⟨more, rfl⟩
              simpa [delimiterOf, List.isPrefixOf] using opens
      | cons c content' =>
          have differs := isContent.head_ne noBackslash
          simp [delimiterOf, List.isPrefixOf, Ne.symm differs]

theorem content_of_closes {delimiter content rest : List Char} {raw : Bool}
    (closes : contentLength? delimiter raw (content ++ (delimiter ++ rest)) = some content.length) :
    Content delimiter raw content := by
  rcases exists_content_of_contentLength? closes with ⟨other, after, same, length, isContent⟩
  rcases List.append_inj same length.symm with ⟨rfl, _⟩
  exact isContent

/-- Behind the gap the letters before a quote are the same, whichever of two texts
was passed before; or a comment has ended, and no quote can follow. -/
def Alike (profile : Profile) (before before' gap text : List Char) : Prop :=
  (∀ front, leadBefore profile (front ++ (gap ++ before')) =
      leadBefore profile (front ++ (gap ++ before)))
    ∨ gap = [] ∧ ∀ c ∈ text.head?, c = '\n'

theorem Alike.cons (plain : profile.Plain) {before before' gap rest : List Char} {c : Char}
    (alike : Alike profile before before' gap (c :: rest)) :
    Alike profile before before' (c :: gap) rest := by
  left
  intro front
  rcases alike with alike | ⟨rfl, lineEnd⟩
  · have same := alike (front ++ [c])
    rw [List.append_assoc, List.append_assoc] at same
    exact same
  · rw [lineEnd c rfl]
    exact leadBefore_append_cons plain.line_noLead front _ _

theorem Alike.leadBefore_eq (plain : profile.Plain) {before before' gap rest : List Char}
    {quote : Char} {triple : Bool} (isQuote : quote ∈ profile.quoteChars)
    (alike : Alike profile before before' gap (delimiterOf quote triple ++ rest)) :
    leadBefore profile (gap ++ before') = leadBefore profile (gap ++ before) := by
  rcases alike with alike | ⟨_, lineEnd⟩
  · exact alike []
  · rw [lineEnd quote (head?_delimiterOf_append quote triple rest)] at isQuote
    exact absurd isQuote plain.line_noQuote

theorem alike_of_quote (plain : profile.Plain) {quote : Char}
    (isQuote : quote ∈ profile.quoteChars) (triple : Bool)
    (inside inside' passed passed' rest : List Char) :
    Alike profile ((inside ++ delimiterOf quote triple).reverse ++ passed)
      ((inside' ++ delimiterOf quote triple).reverse ++ passed') [] rest := by
  left
  intro front
  rcases exists_reverse_append_delimiterOf inside quote triple with ⟨more, mirrored⟩
  rcases exists_reverse_append_delimiterOf inside' quote triple with ⟨more', mirrored'⟩
  rw [mirrored, mirrored']
  exact leadBefore_append_cons (plain.quote_noLead quote isQuote) front _ _

/-- A cut of the text is a cut of the changed text. -/
theorem Cut.change (plain : profile.Plain) (keeps : KeepsContents profile turn)
    {before gap text tail : List Char} {pieces : List Piece}
    (cut : Cut profile before gap text pieces tail) {before' : List Char}
    (alike : Alike profile before before' gap text) :
    ∃ text', Cut profile before' gap text' (pieces.map (Piece.change profile.commentMarker turn))
        tail
      ∧ text'.head? = text.head? := by
  induction cut generalizing before' with
  | done before gap => exact ⟨[], .done before' gap, rfl⟩
  | @pass before gap rest tail c pieces noMarker noQuote _ ih =>
      rcases ih (alike.cons plain) with ⟨rest', next, _⟩
      rw [marker_prefix_iff plain] at noMarker
      exact ⟨c :: rest', .pass (by rwa [marker_prefix_iff plain]) noQuote next, rfl⟩
  | @comment before gap body rest tail pieces marker nonempty oneLine lineEnd _ ih =>
      have starts := List.prefix_append profile.commentMarker
        (turn (body.drop profile.commentMarker.length))
      have nonempty' : profile.commentMarker ++ turn (body.drop profile.commentMarker.length) ≠
          [] := by
        intro empty
        exact plain.marker_ne_nil (List.append_eq_nil_iff.mp empty).1
      have oneLine' : '\n' ∉
          profile.commentMarker ++ turn (body.drop profile.commentMarker.length) := by
        rw [List.mem_append, not_or]
        exact ⟨plain.marker_oneLine,
          keeps.oneLine _ fun member => oneLine (List.mem_of_mem_drop member)⟩
      rcases ih (.inr ⟨rfl, lineEnd⟩) with ⟨rest', next, sameHead⟩
      refine ⟨_, .comment starts nonempty' oneLine' (by rwa [sameHead]) next, ?_⟩
      rw [head?_of_starts plain.marker_ne_nil (starts.trans (List.prefix_append _ rest')),
        head?_of_starts plain.marker_ne_nil (marker.trans (List.prefix_append _ rest))]
  | @string before free lead content rest tail quote triple pieces noMarker isQuote isLead opens
      closes _ ih =>
      have noBackslash : quote ≠ '\\' := by
        rintro rfl
        exact plain.quote_noBackslash isQuote
      have sameLead := alike.leadBefore_eq plain isQuote
      rw [List.append_assoc, List.append_assoc, isLead] at sameLead
      have isContent := content_of_closes closes
      have isContent' := keeps.content quote isQuote triple _ content isContent
      have behind := alike_of_quote plain isQuote triple (delimiterOf quote triple ++ content)
        (delimiterOf quote triple ++ turn content) (lead.reverse ++ (free ++ before))
        (lead.reverse ++ (free ++ before')) rest
      rw [List.append_assoc, List.append_assoc (delimiterOf quote triple)] at behind
      rcases ih behind with ⟨rest', next, sameHead⟩
      refine ⟨_, .string ?_ isQuote sameLead ?_ ?_ next, ?_⟩
      · rw [marker_prefix_iff plain, head?_delimiterOf_append] at noMarker ⊢
        exact noMarker
      · exact opens_change noBackslash isContent' (keeps.nil_iff content) sameHead opens
      · exact contentLength?_of_content noBackslash isContent' rest'
      · rw [head?_delimiterOf_append, head?_delimiterOf_append]
  | @unclosed before free lead body quote triple noMarker isQuote isLead opens staysOpen =>
      have sameLead := alike.leadBefore_eq plain isQuote
      rw [List.append_assoc, List.append_assoc, isLead] at sameLead
      exact ⟨_, .unclosed noMarker isQuote sameLead opens staysOpen, rfl⟩

end Change

/-! ## What is seen of a scan -/

/-- What stays of a span when its content is changed. -/
inductive Form where
  | comment
  | string (lead : List Char) (quote : Char) (triple terminated : Bool)
  deriving DecidableEq, Repr

def Span.form : Span → Form
  | comment _ _ => .comment
  | string literal => .string literal.lead literal.quote literal.triple literal.terminated

/-- The text before each span and behind the last one. -/
def gapsFrom (source : List Char) (place : Nat) : List Span → List (List Char)
  | [] => [source.drop place]
  | span :: spans => slice source place span.start :: gapsFrom source span.stop spans

def Token.form : Token → Form
  | comment _ => .comment
  | string lead quote triple _ => .string lead quote triple true
  | unclosed lead quote triple _ => .string lead quote triple false

@[simp]
theorem Token.form_change (marker : List Char) (turn : List Char → List Char) (token : Token) :
    (token.change marker turn).form = token.form := by
  cases token <;> rfl

@[simp]
theorem Token.content?_change (marker : List Char) (turn : List Char → List Char)
    (token : Token) :
    (token.change marker turn).content? marker = (token.content? marker).map turn := by
  cases token with
  | comment body => simp [change, content?]
  | string => rfl
  | unclosed => rfl

theorem map_form_spansFrom (place : Nat) (pieces : List Piece) :
    (spansFrom place pieces).map Span.form = pieces.map fun piece => piece.token.form := by
  induction pieces generalizing place with
  | nil => rfl
  | cons piece pieces ih =>
      rw [spansFrom, List.map_cons, List.map_cons, ih]
      congr 1
      cases piece.token <;> rfl

/-- Behind its first piece a text goes on with the others. -/
theorem append_textOf_cons (before tail : List Char) (piece : Piece) (pieces : List Piece) :
    before ++ (textOf (piece :: pieces) ++ tail) =
      (before ++ piece.text) ++ (textOf pieces ++ tail) := by
  simp [textOf]

/-- Behind its first gap a text goes on with the token. -/
theorem append_gap_append (before tail : List Char) (piece : Piece) (pieces : List Piece) :
    before ++ (textOf (piece :: pieces) ++ tail) =
      (before ++ piece.gap) ++ (piece.token.text ++ (textOf pieces ++ tail)) := by
  simp [textOf, Piece.text]

theorem gapsFrom_spansFrom (before tail : List Char) (pieces : List Piece) :
    gapsFrom (before ++ (textOf pieces ++ tail)) before.length
        (spansFrom before.length pieces) = pieces.map Piece.gap ++ [tail] := by
  induction pieces generalizing before with
  | nil => simp [gapsFrom, spansFrom]
  | cons piece pieces ih =>
      have spanStop : before.length + piece.gap.length + piece.token.text.length =
          (before ++ piece.text).length := by
        rw [Piece.text, List.length_append, List.length_append, Nat.add_assoc]
      rw [spansFrom, gapsFrom, Token.start_span, Token.stop_span, List.map_cons, List.cons_append]
      congr 1
      · rw [append_gap_append, List.append_assoc]
        exact slice_of_append rfl rfl
      · rw [append_textOf_cons, spanStop, ← List.length_append]
        exact ih _

theorem map_content?_spansFrom (marker before tail : List Char) (pieces : List Piece) :
    (spansFrom before.length pieces).map
        (Span.content? marker (before ++ (textOf pieces ++ tail))) =
      pieces.map fun piece => piece.token.content? marker := by
  induction pieces generalizing before with
  | nil => rfl
  | cons piece pieces ih =>
      rw [spansFrom, List.map_cons, List.map_cons]
      congr 1
      · rw [append_gap_append]
        exact Token.content?_span marker piece.token _ List.length_append.symm
      · rw [append_textOf_cons, ← List.length_append]
        exact ih _

section Scans

variable {profile : Profile} {source tail : List Char} {pieces : List Piece}

theorem Cut.source_eq (cut : Cut profile [] [] source pieces tail) :
    textOf pieces ++ tail = source :=
  cut.textOf_append

theorem Cut.map_form_scan (cut : Cut profile [] [] source pieces tail) :
    (scan profile source).map Span.form = pieces.map fun piece => piece.token.form := by
  rw [scan_of_cut cut, map_form_spansFrom]

theorem Cut.gapsFrom_scan (cut : Cut profile [] [] source pieces tail) :
    gapsFrom source 0 (scan profile source) = pieces.map Piece.gap ++ [tail] := by
  have gaps := gapsFrom_spansFrom [] tail pieces
  rw [List.nil_append, cut.source_eq] at gaps
  rw [scan_of_cut cut]
  exact gaps

theorem Cut.map_content?_scan (cut : Cut profile [] [] source pieces tail)
    (marker : List Char) :
    (scan profile source).map (Span.content? marker source) =
      pieces.map fun piece => piece.token.content? marker := by
  have contents := map_content?_spansFrom marker [] tail pieces
  rw [List.nil_append, cut.source_eq] at contents
  rw [scan_of_cut cut]
  exact contents

end Scans

end CodeGloss.Scan
